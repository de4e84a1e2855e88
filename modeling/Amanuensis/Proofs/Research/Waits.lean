import Amanuensis.Proofs.Research.Outcome
/-!
# The waits of a poll

A poll waits before each of its slots, and before it repeats a request that
has failed on the way. The budget is looked at before the waits of the first
kind and not before those of the second: `waitsAt_iff` says when each is begun,
the first only in the budget, the second whenever a failure is not the last
that its slot allows. So every wait is begun in the budget if and only if every
failure that is to be repeated comes within it (`waits_inBudget_iff`), and there
are polls in which one does not (`repeats_beyond_budget`).
-/


namespace Amanuensis

namespace Research

namespace Poll

open Amanuensis.Task Scenario

/-- A wait for some span is begun at an instant of a poll, after which the
poll goes on in some phase: in `rested` if the wait stands before a slot, in
`retried` if it stands before a repetition. -/
def WaitsAt (e : Setting Event) (o : Options) (jobId : String) (m : Moment) (t : Instant)
    (span : Nat) (phase : Wake → Phase) : Prop :=
  ∃ n effects m' s course, Reached (step o) e .free m (start o jobId m.now) n effects m' s ∧
    m'.now = t ∧
    step o t (m'.cancelled e.signalled) s = .wait (some span) true fun how => (course, phase how)

/-- What a wait of a calm poll stands before: a slot that is begun in the
budget, or the repetition of a request that has failed. -/
inductive Pause (c : Scenario) (t : Instant) : (span : Nat) → (Wake → Phase) → Prop
  | slot {k q} : c.Settled k q t → c.InBudget t →
      Pause c t (c.options.interval k) .rested
  | repetition {k f q message} : c.Answered k f q t (.error (.network message)) →
      c.options.Repeats f → Pause c t c.options.retryDelay.nanos (.retried (.ofNat (f + 1)))

variable {e : Setting Event} {o : Options} {jobId : String} {m : Moment} {c : Scenario}
variable {k f q span : Nat} {t : Instant} {s : Machine} {phase : Wake → Phase}

/-- The phases that two waits lead to are the same if the waits are. -/
theorem phase_eq_of_wait {span' : Nat} {course course' : Course} {phase' : Wake → Phase}
    (h : (.wait (some span) true fun how => (course, phase how) : Move) =
      .wait (some span') true fun how => (course', phase' how)) :
    span = span' ∧ phase = phase' := by
  injection h with hspan _ hnext
  refine ⟨Option.some.inj hspan, funext fun how => ?_⟩
  exact (Prod.mk.inj (congrFun hnext how)).2

/-- A slot that is begun with a wait is begun in the budget. -/
theorem pause_of_beginSlot {course : Course} (hsettled : c.Settled k q t)
    (h : beginSlot c.options t false (c.course k k q) =
      .wait (some span) true fun how => (course, phase how)) : Pause c t span phase := by
  by_cases hbudget : c.InBudget t
  · rw [beginSlot_of_inBudget hbudget] at h
    obtain ⟨rfl, rfl⟩ := phase_eq_of_wait h
    exact .slot hsettled hbudget
  · rw [beginSlot_of_not_inBudget hbudget] at h
    cases h

/-- A failure after which there is a wait is not the last of its slot. -/
theorem pause_of_retry {course : Course} {message : String}
    (ha : c.Answered k f q t (.error (.network message)))
    (h : retry c.options t (c.course k (k + 1) q) (.ofNat f + 1) message =
      .wait (some span) true fun how => (course, phase how)) : Pause c t span phase := by
  obtain ⟨r, d, hasks, -⟩ := id ha
  by_cases hmay : c.options.Repeats f
  · rw [retry_of_repeats hasks.allows hmay] at h
    obtain ⟨rfl, rfl⟩ := phase_eq_of_wait h
    exact .repetition ha hmay
  · rw [retry_of_not_repeats hasks.allows hmay] at h
    cases h

/-- **Wherever a calm poll stands, its next wait is one of these.** -/
theorem pause_of_stands {course : Course} (hs : c.Stands k q t s)
    (h : step c.options t false s = .wait (some span) true fun how => (course, phase how)) :
    Pause c t span phase := by
  cases hs with
  | begin => exact pause_of_beginSlot .none h
  | asking =>
    rw [step_asking] at h
    cases h
  | @answered _ f q t a ha =>
    match a with
    | .error (.network message) => exact pause_of_retry ha h
    | .ok s => cases h
    | .error .cancelled => cases h
    | .error (.api code message) => cases h
    | .error (.invalidResponse message) => cases h
    | .error (.invalidRequest message) => cases h
  | @reported k f q t s ha =>
    cases hconclude : conclude (c.course k (k + 1) (q + 1)) t s with
    | some result =>
      simp only [step, hconclude] at h
      cases h
    | none =>
      have hrunning := conclude_eq_none_iff.1 hconclude
      rw [step_reported_of_running hrunning] at h
      exact pause_of_beginSlot (.slot ha hrunning) h
  | exhausted => cases h

/-- A place that a calm poll visits is one at which it may wait. -/
theorem Visits.waitsAt {course : Course} (h : Visits e o jobId m q t s)
    (hstep : step o t false s = .wait (some span) true fun how => (course, phase how)) :
    WaitsAt e o jobId m t span phase := by
  obtain ⟨n, effects, m', hreached, hfits⟩ := h
  refine ⟨n, effects, m', s, course, hreached, hfits.now, ?_⟩
  rw [hfits.calm.cancelled]
  exact hstep

/-- **The waits of a calm poll** are those before its slots, in the budget, and
those before its repetitions. -/
theorem waitsAt_iff (hcalm : e.Calm m) :
    WaitsAt e o jobId m t span phase ↔ Pause (scenario e o jobId m) t span phase := by
  constructor
  · rintro ⟨n, effects, m', s, course, hreached, rfl, hstep⟩
    obtain ⟨_, q, hplaced⟩ := placed_of_reached hcalm hreached
    rw [hplaced.fits.calm.cancelled] at hstep
    exact pause_of_stands hplaced.stands hstep
  · intro hpause
    cases hpause with
    | slot hsettled hbudget =>
      obtain ⟨s, hvisits, hstep⟩ := visits_settled hcalm hsettled
      exact hvisits.waitsAt (hstep.trans (beginSlot_of_inBudget hbudget))
    | repetition ha hmay =>
      obtain ⟨r, d, hasks, -⟩ := id ha
      exact (visits_answered hcalm ha).waitsAt (retry_of_repeats hasks.allows hmay)

/-- So all of them are begun in the budget if and only if every failure that
is to be repeated comes in the budget. -/
theorem waits_inBudget_iff (hcalm : e.Calm m) :
    (∀ t span phase, WaitsAt e o jobId m t span phase → (scenario e o jobId m).InBudget t) ↔
      ∀ k f q t message,
        (scenario e o jobId m).Answered k f q t (.error (.network message)) →
        o.Repeats f → (scenario e o jobId m).InBudget t := by
  constructor
  · intro h k f q t message ha hmay
    exact h t _ _ ((waitsAt_iff hcalm).2 (.repetition ha hmay))
  · intro h t span phase hwaits
    cases (waitsAt_iff hcalm).1 hwaits with
    | slot _ hbudget => exact hbudget
    | repetition ha hmay => exact h _ _ _ _ _ ha hmay

/-- **When a poll waits.** It waits before its slots and before its
repetitions. A slot is begun in the budget only: beyond it the poll times out
at once, with the time that has passed. A repetition is waited for in any case,
so that the budget is kept to before every wait if and only if every failure
that is to be repeated comes within it. -/
theorem waits_budget (e : Setting Event) (o : Options) (jobId : String) (m : Moment)
    (hcalm : e.Calm m) :
    let c := scenario e o jobId m
    (∀ t span phase, WaitsAt e o jobId m t span phase ↔ Pause c t span phase) ∧
    (∀ k q t, c.Settled k q t → ¬ c.InBudget t → ∃ n, ∀ moves, n ≤ moves →
      ((poll o jobId m.now).run e .free moves m).outcome =
        .settled (.error (.pollingTimeout (.ofNanos (t - m.now)) (.ofNat k))) ∧
      ((poll o jobId m.now).run e .free moves m).moment.now = t ∧
      ((poll o jobId m.now).run e .free moves m).moment.tally = m.tally.ahead q) ∧
    ((∀ t span phase, WaitsAt e o jobId m t span phase → c.InBudget t) ↔
      ∀ k f q t message, c.Answered k f q t (.error (.network message)) →
        o.Repeats f → c.InBudget t) := by
  intro c
  refine ⟨fun t span phase => waitsAt_iff hcalm, fun k q t hsettled hbudget => ?_,
    waits_inBudget_iff hcalm⟩
  exact settles_of_returns hcalm (.outOfTime hsettled hbudget)

/-- The poll of `thirdTime` waits for a second when the first request has
failed, five seconds and five milliseconds after its start. -/
theorem thirdTime_waits : thirdTime.Calm (.start none) ∧
    WaitsAt thirdTime .standard "job-1" (.start none) 5005000000 1000000000 (.retried 1) := by
  refine ⟨thirdTime_calm, ?_⟩
  have hasked : (scenario thirdTime .standard "job-1" (.start none)).Asks 0 0 0 5000000000 :=
    .first (by decide +kernel)
  have hfailed : (scenario thirdTime .standard "job-1" (.start none)).Answered 0 0 0 5005000000
      (.error (.network "reset")) :=
    ⟨_, 5000000, hasked, rfl, rfl⟩
  exact ((waits_budget thirdTime .standard "job-1" (.start none) thirdTime_calm).1 _ _ _).2
    (.repetition hfailed (.inr (by decide)))

/-! ## Beyond the budget -/

/-- A service whose connection breaks when five seconds have passed, and that
has the report when it is asked again. -/
def lateFailure : Setting Event :=
  ⟨.ofSequences (fun _ => .now (.error .cancelled))
    (Client.sequence [⟨false, some 5000000000, false, some (.error (.network "reset"))⟩]
      (.now (.ok ⟨.completed, some ⟨"t", [], []⟩, none, none⟩)))
    fun _ => .now (.error .cancelled), false, none⟩

/-- Options with a budget of two seconds. -/
def hasty : Options :=
  { Options.standard with initialInterval := .ofMillis 1000, maxDuration := .ofMillis 2000 }

/-- **A poll waits for a repetition when its budget is long used up**, and
returns the report instead of timing out. -/
theorem repeats_beyond_budget :
    lateFailure.Calm (.start none) ∧
      (poll hasty "job-1" 0).run lateFailure .free 10 (.start none) =
        ⟨[.asked (.status "job-1") 1000000000, .asked (.status "job-1") 7000000000],
          .settled (.ok ⟨⟨"t", [], []⟩, 1, .ofNanos 7000000000⟩),
          ⟨7000000000, none, ⟨0, 2, 0⟩, 0⟩⟩ ∧
      ∃ t span phase, WaitsAt lateFailure hasty "job-1" (.start none) t span phase ∧
        hasty.maxDuration.nanos ≤ t := by
  have hcalm : lateFailure.Calm (.start none) := nofun
  have hasked : (scenario lateFailure hasty "job-1" (.start none)).Asks 0 0 0 1000000000 :=
    .first (by decide +kernel)
  have hfailed : (scenario lateFailure hasty "job-1" (.start none)).Answered 0 0 0 6000000000
      (.error (.network "reset")) :=
    ⟨_, 5000000000, hasked, rfl, rfl⟩
  have hwaits : WaitsAt lateFailure hasty "job-1" (.start none) 6000000000 hasty.retryDelay.nanos
      (.retried 1) :=
    (waitsAt_iff hcalm).2 (.repetition hfailed (.inr (by decide)))
  exact ⟨hcalm, rfl, 6000000000, _, _, hwaits, by decide⟩

end Poll

end Research

end Amanuensis
