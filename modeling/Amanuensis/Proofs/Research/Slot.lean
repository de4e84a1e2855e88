import Amanuensis.Proofs.Research.Counts
import Amanuensis.Proofs.Research.Interval
import Amanuensis.Task.Moment
/-!
# The slots of a poll

What a poll comes to is laid down by its options and by what the service
answers. A `Scenario` is a poll with the script of these answers, and its
course is told here slot by slot, without phases or moves: `Asks` says which
requests are made and when, `Settled` how many slots have been gone through
without an end, `Decides` which answer ends the poll and with what, and
`Returns` adds the end of the budget. Slots are counted from `1` and
requests from `0`, both without end: a poll tells the count of its slots in 32
bits.
-/


namespace Amanuensis

namespace Research

namespace Poll

open Amanuensis.Task

/-- What is answered to the requests of a poll, one after the other: how
long it takes and what it is, or nothing if no answer ever comes. -/
abbrev Script := Nat → Option (Nat × Except Client.Error State)

/-- A poll with all that it is going to be told. -/
structure Scenario where
  options : Options
  jobId : String
  startedAt : Instant
  script : Script

namespace Scenario

/-- The time budget is not used up. -/
def InBudget (c : Scenario) (t : Instant) : Prop :=
  t - c.startedAt < c.options.maxDuration.nanos

instance (c : Scenario) (t : Instant) : Decidable (c.InBudget t) :=
  inferInstanceAs (Decidable (t - c.startedAt < c.options.maxDuration.nanos))

/-- Slot `k + 1` makes request `q` at instant `r`, after `f` of its requests
have failed on the way. -/
inductive Asks (c : Scenario) : (k f q : Nat) → (r : Instant) → Prop
  /-- The first slot begins at once, if there is any budget. -/
  | first : c.InBudget c.startedAt → Asks c 0 0 0 (due c.startedAt (c.options.interval 0))
  /-- A slot begins where the one before it has been told that the job is
  still running. -/
  | next {k f q r d s} : Asks c k f q r → c.script q = some (d, .ok s) →
      s.status.isTerminal = false → c.InBudget (due r d) →
      Asks c (k + 1) 0 (q + 1) (due (due r d) (c.options.interval (k + 1)))
  /-- A request that has failed on the way is repeated within its slot. -/
  | again {k f q r d message} : Asks c k f q r →
      c.script q = some (d, .error (.network message)) → c.options.Repeats f →
      Asks c k (f + 1) (q + 1) (due (due r d) c.options.retryDelay.nanos)

/-- Slot `k + 1` is answered at instant `t`, by request `q`, after `f`
failed ones. -/
def Answered (c : Scenario) (k f q : Nat) (t : Instant) (a : Except Client.Error State) : Prop :=
  ∃ r d, c.Asks k f q r ∧ c.script q = some (d, a) ∧ t = due r d

/-- The first `k` slots have settled with the job still running, the last of
them at instant `t`, and have made `q` requests. -/
inductive Settled (c : Scenario) : (k q : Nat) → (t : Instant) → Prop
  | none : Settled c 0 0 c.startedAt
  | slot {k f q t s} : c.Answered k f q t (.ok s) → s.status.isTerminal = false →
      Settled c (k + 1) (q + 1) t

/-- The answer to the last of so many requests comes at some instant and
decides the poll. -/
inductive Decides (c : Scenario) : Nat → Instant → Except Failure Finding → Prop
  | completed {k f q t s report} : c.Answered k f q t (.ok s) → s.status = .completed →
      s.result = some report →
      Decides c (q + 1) t (.ok ⟨report, .ofNat (k + 1), .ofNanos (t - c.startedAt)⟩)
  | incomplete {k f q t s} : c.Answered k f q t (.ok s) → s.status = .completed →
      s.result = none →
      Decides c (q + 1) t (.error (.remote "INVALID_RESPONSE" "Job completed without a result"))
  | failed {k f q t s e} : c.Answered k f q t (.ok s) → s.status = .failed → s.error = some e →
      Decides c (q + 1) t (.error (.remote e.code e.message))
  | failedSilently {k f q t s} : c.Answered k f q t (.ok s) → s.status = .failed →
      s.error = none →
      Decides c (q + 1) t (.error (.remote "RESEARCH_FAILED" "Deep research job failed"))
  | cancelled {k f q t} : c.Answered k f q t (.error .cancelled) →
      Decides c (q + 1) t (.error .pollingCancelled)
  | refused {k f q t e} : c.Answered k f q t (.error e) → e ≠ .cancelled → e.isNetwork = false →
      Decides c (q + 1) t (.error e.toFailure)
  /-- The last of the requests that a slot may make has failed as well. -/
  | exhausted {k q t message} : ¬ c.options.Unlimited →
      c.Answered k c.options.maxRetries.toNat q t (.error (.network message)) →
      Decides c (q + 1) t (.error (exhaustion c.jobId (c.options.maxRetries + 1) message))

/-- The poll returns after so many requests, at some instant. -/
inductive Returns (c : Scenario) : Nat → Instant → Except Failure Finding → Prop
  | decided {q t result} : c.Decides q t result → Returns c q t result
  /-- The next slot finds the budget used up. -/
  | outOfTime {k q t} : c.Settled k q t → ¬ c.InBudget t →
      Returns c q t (.error (.pollingTimeout (.ofNanos (t - c.startedAt)) (.ofNat k)))

variable {c : Scenario} {k f q : Nat} {r t : Instant} {a : Except Client.Error State}

/-- A slot that begins in the budget asks after its interval. -/
theorem Settled.asks (h : c.Settled k q t) (hbudget : c.InBudget t) :
    c.Asks k 0 q (due t (c.options.interval k)) := by
  cases h with
  | none => exact .first hbudget
  | slot h hrunning =>
    obtain ⟨r, d, hasks, hscript, rfl⟩ := h
    exact .next hasks hscript hrunning hbudget

/-- **How a request comes about**: a slot of its own begins with it in the
budget, or it repeats the one before it. -/
theorem Asks.origin (h : c.Asks k f q r) :
    (f = 0 ∧ ∃ t, c.Settled k q t ∧ c.InBudget t ∧ r = due t (c.options.interval k)) ∨
      ∃ f' q' t message, f = f' + 1 ∧ q = q' + 1 ∧ c.options.Repeats f' ∧
        c.Answered k f' q' t (.error (.network message)) ∧
        r = due t c.options.retryDelay.nanos := by
  cases h with
  | first hbudget => exact .inl ⟨rfl, _, .none, hbudget, rfl⟩
  | next h hscript hrunning hbudget =>
    exact .inl ⟨rfl, _, .slot ⟨_, _, h, hscript, rfl⟩ hrunning, hbudget, rfl⟩
  | again h hscript hmay =>
    exact .inr ⟨_, _, _, _, rfl, rfl, hmay, ⟨_, _, h, hscript, rfl⟩, rfl⟩

/-- A slot repeats its request no more often than it may. -/
theorem Asks.allows (h : c.Asks k f q r) : c.options.Allows f := by
  cases h with
  | first => exact c.options.allows_zero
  | next => exact c.options.allows_zero
  | again _ _ hmay => exact hmay.allows

/-- A slot that has no retry left has failed once more than there are
retries. -/
theorem Answered.exhausted {message : String}
    (h : c.Answered k f q t (.error (.network message))) (hlast : ¬ c.options.Repeats f) :
    ¬ c.options.Unlimited ∧
      c.Answered k c.options.maxRetries.toNat q t (.error (.network message)) ∧
      UInt32.ofNat (f + 1) = c.options.maxRetries + 1 := by
  obtain ⟨r, d, hasks, hscript, rfl⟩ := h
  obtain ⟨hlimited, rfl⟩ := hasks.allows.eq_of_not_repeats hlast
  refine ⟨hlimited, ⟨r, d, hasks, hscript, rfl⟩, ?_⟩
  rw [← count_succ, UInt32.ofNat_toNat]

/-! ## Without a limit to the retries -/

/-- A request fails on the way. -/
def Fails (c : Scenario) (q : Nat) : Prop :=
  ∃ d message, c.script q = some (d, .error (.network message))

/-- What such a request is answered with. -/
theorem Answered.of_fails (h : c.Answered k f q t a) (hfails : c.Fails q) :
    ∃ message, a = .error (.network message) := by
  obtain ⟨r, d, -, hscript, -⟩ := h
  obtain ⟨d', message, hfailed⟩ := hfails
  exact ⟨message, (Prod.mk.inj (Option.some.inj (hscript.symm.trans hfailed))).2⟩

/-- Without a limit the first slot asks again and again, as long as nothing but
failures come back. -/
theorem asks_of_unlimited (hunlimited : c.options.Unlimited) (hbudget : c.InBudget c.startedAt)
    (hfails : ∀ q, c.Fails q) (f : Nat) : ∃ r, c.Asks 0 f f r := by
  induction f with
  | zero => exact ⟨_, .first hbudget⟩
  | succ f ih =>
    obtain ⟨r, hasks⟩ := ih
    obtain ⟨d, message, hscript⟩ := hfails f
    exact ⟨_, .again hasks hscript (.inl hunlimited)⟩

/-- **And no return ever comes about.** -/
theorem not_returns_of_unlimited (hunlimited : c.options.Unlimited)
    (hbudget : c.InBudget c.startedAt) (hfails : ∀ q, c.Fails q)
    {result : Except Failure Finding} : ¬ c.Returns q t result := by
  intro h
  cases h with
  | decided h =>
    cases h with
    | completed ha | incomplete ha | failed ha | failedSilently ha | cancelled ha =>
      obtain ⟨message, heq⟩ := ha.of_fails (hfails _)
      cases heq
    | refused ha _ hnetwork =>
      obtain ⟨message, heq⟩ := ha.of_fails (hfails _)
      cases heq
      cases hnetwork
    | exhausted hlimited => exact hlimited hunlimited
  | outOfTime hsettled hover =>
    cases hsettled with
    | none => exact hover hbudget
    | slot ha =>
      obtain ⟨message, heq⟩ := ha.of_fails (hfails _)
      cases heq

end Scenario

end Poll

end Research

end Amanuensis
