import Amanuensis.Proofs.Research.PollRun
/-!
# What a poll returns

A calm poll returns what its slots dictate, when they dictate it and after
the requests that they make, and it returns nothing else
(`poll_returns_iff`). The rules are those of `Scenario.Returns`: the first
slot whose answer decides the poll, or the first that finds the budget used
up. A scenario in which neither comes about is one in which the poll never
returns.
-/


namespace Amanuensis

namespace Research

namespace Poll

open Amanuensis.Task Scenario

variable {e : Setting Event} {o : Options} {jobId : String} {m : Moment}
variable {q : Nat} {t : Instant} {s : Machine} {result : Except Failure Finding}

/-- A poll that gets to a place where it settles has settled there, however
many more moves it is allowed. -/
theorem Visits.settles (h : Visits e o jobId m q t s) (hstep : step o t false s = .settle result) :
    ∃ n, ∀ moves, n ≤ moves →
      ((poll o jobId m.now).run e .free moves m).outcome = .settled result ∧
      ((poll o jobId m.now).run e .free moves m).moment.now = t ∧
      ((poll o jobId m.now).run e .free moves m).moment.tally = m.tally.ahead q := by
  obtain ⟨n, effects, m', hreached, hfits⟩ := h
  refine ⟨n + 1, fun moves hle => ?_⟩
  have hends : Ends (step o) e .free m (start o jobId m.now) moves
      ⟨effects, .settled result, m'⟩ :=
    .settled hreached hle (hfits.turn_settle hstep)
  have hrun : (poll o jobId m.now).run e .free moves m = ⟨effects, .settled result, m'⟩ :=
    hends.runFrom_eq
  rw [hrun]
  exact ⟨rfl, hfits.now, hfits.tally⟩

/-- **A poll that has settled returns what its slots dictate.** -/
theorem returns_of_settled (hcalm : e.Calm m) {moves : Nat}
    (h : ((poll o jobId m.now).run e .free moves m).outcome = .settled result) :
    ∃ q, ((poll o jobId m.now).run e .free moves m).moment.tally = m.tally.ahead q ∧
      (scenario e o jobId m).Returns q
        ((poll o jobId m.now).run e .free moves m).moment.now result := by
  have hends : Ends (step o) e .free m (start o jobId m.now) moves
      ((poll o jobId m.now).run e .free moves m) := runFrom_ends moves m _
  generalize (poll o jobId m.now).run e .free moves m = r at h hends
  cases hends with
  | unfinished => cases h
  | settled hreached _ hturn =>
    cases h
    -- a turn that settles is the return of the scenario
    obtain ⟨_, q, hplaced⟩ := placed_of_reached hcalm hreached
    have hadvance := advance_of_stands hplaced.fits hplaced.stands
    rw [hturn] at hadvance
    cases hadvance with
    | settle hreturns => exact ⟨q, hplaced.fits.tally, hreturns⟩
  | lost => cases h
  | stuck => cases h

/-- **An answer that decides settles the poll.** -/
theorem settles_of_decides (hcalm : e.Calm m) (h : (scenario e o jobId m).Decides q t result) :
    ∃ s, Visits e o jobId m q t s ∧ step o t false s = .settle result := by
  cases h with
  | completed ha hs hr =>
    refine ⟨_, visits_reported hcalm ha, ?_⟩
    simp only [step, conclude, hs, hr]
    rfl
  | incomplete ha hs hr =>
    refine ⟨_, visits_reported hcalm ha, ?_⟩
    simp only [step, conclude, hs, hr]
    rfl
  | failed ha hs he =>
    refine ⟨_, visits_reported hcalm ha, ?_⟩
    simp only [step, conclude, hs, he, jobFailure]
  | failedSilently ha hs he =>
    refine ⟨_, visits_reported hcalm ha, ?_⟩
    simp only [step, conclude, hs, he, jobFailure]
  | cancelled ha => exact ⟨_, visits_answered hcalm ha, rfl⟩
  | @refused k f q t e' ha hcancelled hnetwork =>
    refine ⟨_, visits_answered hcalm ha, ?_⟩
    cases e' with
    | network message => cases hnetwork
    | cancelled => exact absurd rfl hcancelled
    | api code message => rfl
    | invalidResponse message => rfl
    | invalidRequest message => rfl
  | @exhausted k q t message hlimited ha =>
    obtain ⟨r, d, hasks, -, -⟩ := id ha
    have hlast : ¬ o.Repeats o.maxRetries.toNat :=
      not_or.2 ⟨hlimited, Nat.lt_irrefl _⟩
    have hreported := (visits_answered hcalm ha).report (retry_of_not_repeats hasks.allows hlast)
    rw [(ha.exhausted hlast).2.2] at hreported
    exact ⟨_, hreported, rfl⟩

/-- **And a poll settles as its slots return.** -/
theorem settles_of_returns (hcalm : e.Calm m) (h : (scenario e o jobId m).Returns q t result) :
    ∃ n, ∀ moves, n ≤ moves →
      ((poll o jobId m.now).run e .free moves m).outcome = .settled result ∧
      ((poll o jobId m.now).run e .free moves m).moment.now = t ∧
      ((poll o jobId m.now).run e .free moves m).moment.tally = m.tally.ahead q := by
  cases h with
  | decided h =>
    obtain ⟨s, hvisits, hstep⟩ := settles_of_decides hcalm h
    exact hvisits.settles hstep
  | outOfTime hsettled hbudget =>
    obtain ⟨s, hvisits, hstep⟩ := visits_settled hcalm hsettled
    exact hvisits.settles (hstep.trans (beginSlot_of_not_inBudget hbudget))

/-- A poll settles for a result at an instant, after so many requests. -/
def SettlesAs (e : Setting Event) (o : Options) (jobId : String) (m : Moment) (q : Nat)
    (t : Instant) (result : Except Failure Finding) : Prop :=
  ∃ moves, ((poll o jobId m.now).run e .free moves m).outcome = .settled result ∧
    ((poll o jobId m.now).run e .free moves m).moment.now = t ∧
    ((poll o jobId m.now).run e .free moves m).moment.tally = m.tally.ahead q

theorem settlesAs_iff (hcalm : e.Calm m) :
    SettlesAs e o jobId m q t result ↔ (scenario e o jobId m).Returns q t result := by
  constructor
  · rintro ⟨moves, houtcome, rfl, htally⟩
    obtain ⟨q', htally', hreturns⟩ := returns_of_settled hcalm houtcome
    have hcount := congrArg Client.Tally.statuses (htally'.symm.trans htally)
    obtain rfl : q' = q := Nat.add_left_cancel hcount
    exact hreturns
  · intro h
    obtain ⟨n, hsettles⟩ := settles_of_returns hcalm h
    exact ⟨n, hsettles n (Nat.le_refl n)⟩

/-- **A poll returns exactly what its first deciding slot dictates.** With
every allowance of moves that is large enough its run has settled for the
result, at the instant of that slot's answer, and has used up exactly the
answers that come before; and a run that has settled has so by the rules of
`Scenario.Returns`. -/
theorem poll_returns_iff (e : Setting Event) (o : Options) (jobId : String) (m : Moment)
    (hcalm : e.Calm m) (requests : Nat) (t : Instant) (result : Except Failure Finding) :
    (scenario e o jobId m).Returns requests t result ↔
      ∃ n, ∀ moves, n ≤ moves →
        ((poll o jobId m.now).run e .free moves m).outcome = .settled result ∧
        ((poll o jobId m.now).run e .free moves m).moment.now = t ∧
        ((poll o jobId m.now).run e .free moves m).moment.tally = m.tally.ahead requests := by
  refine ⟨settles_of_returns hcalm, ?_⟩
  rintro ⟨n, h⟩
  obtain ⟨houtcome, hnow, htally⟩ := h n (Nat.le_refl n)
  obtain ⟨q, htally', hreturns⟩ := returns_of_settled hcalm houtcome
  have hq : m.tally.ahead q = m.tally.ahead requests := htally'.symm.trans htally
  have hcount : m.tally.statuses + q = m.tally.statuses + requests :=
    congrArg Client.Tally.statuses hq
  obtain rfl : q = requests := by omega
  rwa [← hnow]

/-- The third answer decides, sixteen seconds after the start and in the
second slot: five seconds to the first request, one more to its repetition,
ten to the next slot. -/
theorem thirdTime_returns :
    thirdTime.Calm (.start none) ∧
      (scenario thirdTime .standard "job-1" (.start none)).Returns 3 16005000000
        (.ok ⟨⟨"done", [], []⟩, 2, .ofNanos 16005000000⟩) := by
  refine ⟨thirdTime_calm, ?_⟩
  rw [poll_returns_iff thirdTime .standard "job-1" (.start none) thirdTime_calm]
  refine ⟨10, fun moves hle => ?_⟩
  have houtcome : ((poll .standard "job-1" 0).run thirdTime .free 10 (.start none)).outcome =
      .settled (.ok ⟨⟨"done", [], []⟩, 2, .ofNanos 16005000000⟩) := rfl
  have hrun : (poll .standard "job-1" 0).run thirdTime .free moves (.start none) =
      (poll .standard "job-1" 0).run thirdTime .free 10 (.start none) :=
    runFrom_eq_of_le hle fun h => by cases houtcome.symm.trans h
  exact hrun ▸ ⟨houtcome, rfl, rfl⟩

/-! ## Beyond the clock and the counts -/

/-- **Without a limit to its retries a poll may never return**: it does not, as
long as the service cannot be reached. -/
theorem not_settled_of_unlimited (hcalm : e.Calm m) (hunlimited : o.Unlimited)
    (hbudget : (scenario e o jobId m).InBudget m.now) (hfails : ∀ q, (scenario e o jobId m).Fails q)
    (moves : Nat) : ((poll o jobId m.now).run e .free moves m).outcome ≠ .settled result := by
  intro hsettled
  obtain ⟨q, -, hreturns⟩ := returns_of_settled hcalm hsettled
  exact not_returns_of_unlimited hunlimited hbudget hfails hreturns

section Promptly

variable {answers : Nat → Except Client.Error State} {retries : UInt32} {k : Nat}

/-- A caller who listens to a service that answers every request at once. -/
def promptly (answers : Nat → Except Client.Error State) : Setting Event :=
  ⟨.ofSequences (fun _ => .now (.error .cancelled)) (fun q => .now (answers q))
    fun _ => .now (.error .cancelled), false, some fun _ _ => false⟩

/-- Nobody has a signal to cancel. -/
theorem promptly_calm (answers : Nat → Except Client.Error State) :
    (promptly answers).Calm (.start none) := nofun

theorem promptly_script (q : Nat) :
    (scenario (promptly answers) o jobId (.start none)).script q = some (0, answers q) := by
  have hscript : (scenario (promptly answers) o jobId (.start none)).script q =
      some (0, answers (0 + q)) := rfl
  rw [hscript, Nat.zero_add]

/-- Options without waits. -/
def waitless (retries : UInt32) : Options :=
  ⟨.ofNanos 0, .ofNanos 0, .ofNanos 1, .ofNanos 0, retries⟩

theorem waitless_interval (k : Nat) : (waitless retries).interval k = 0 :=
  Nat.le_zero.1 (Nat.min_le_right _ _)

/-- Where neither waits nor requests take any time, a slot is answered at once
by its first request. -/
theorem answered_at_once
    (h : (scenario (promptly answers) (waitless retries) jobId (.start none)).Settled k q 0) :
    (scenario (promptly answers) (waitless retries) jobId (.start none)).Answered k 0 q 0
      (answers q) := by
  have hasks := h.asks Nat.one_pos
  rw [show (scenario (promptly answers) (waitless retries) jobId (.start none)).options.interval k
    = 0 from waitless_interval k] at hasks
  exact ⟨0, 0, hasks, promptly_script q, by decide⟩

theorem settled_at_once
    (h : ∀ q < k, ∃ s, answers q = .ok s ∧ s.status.isTerminal = false) :
    (scenario (promptly answers) (waitless retries) jobId (.start none)).Settled k k 0 := by
  induction k with
  | zero => exact .none
  | succ k ih =>
    obtain ⟨s, hs, hrunning⟩ := h k (Nat.lt_succ_self k)
    have hanswered := answered_at_once (ih fun q hq => h q (Nat.lt_succ_of_lt hq))
    rw [hs] at hanswered
    exact .slot hanswered hrunning

/-- A job that is done when it is asked for once more after so many times. -/
def doneAfter (n q : Nat) : Except Client.Error State :=
  if q < n then .ok (.ofStatus .pending)
  else .ok ⟨.completed, some ⟨"done", [], []⟩, none, none⟩

theorem doneAfter_answered (retries : UInt32) (jobId : String) (n : Nat) :
    (scenario (promptly (doneAfter n)) (waitless retries) jobId (.start none)).Answered n 0 n 0
      (.ok ⟨.completed, some ⟨"done", [], []⟩, none, none⟩) := by
  have hlast : doneAfter n n = .ok ⟨.completed, some ⟨"done", [], []⟩, none, none⟩ :=
    if_neg (Nat.lt_irrefl n)
  rw [← hlast]
  exact answered_at_once (settled_at_once fun q hq => ⟨.ofStatus .pending, if_pos hq, rfl⟩)

end Promptly

/-- A caller of a service that cannot be reached. -/
def unreached : Setting Event := promptly fun _ => .error (.network "unreachable")

theorem unreached_fails (q : Nat) : (scenario unreached o jobId (.start none)).Fails q :=
  ⟨0, "unreachable", promptly_script q⟩

/-- The usual options with as many retries as can be counted. -/
def tireless : Options := { Options.standard with maxRetries := 4294967295 }

theorem unreached_answered (f : Nat) :
    ∃ t, (scenario unreached tireless "job-1" (.start none)).Answered 0 f f t
      (.error (.network "unreachable")) := by
  obtain ⟨r, hasks⟩ := asks_of_unlimited (c := scenario unreached tireless "job-1" (.start none))
    (by decide) (by decide +kernel) unreached_fails f
  exact ⟨_, r, 0, hasks, promptly_script f, rfl⟩

/-- A caller who listens to a service whose only answer takes more than five
hundred million years. -/
def distant : Setting Event :=
  ⟨.ofSequences (fun _ => .now (.error .cancelled))
    (fun _ => ⟨false, some 18446744073709551615000000, false,
      some (.ok ⟨.completed, some ⟨"done", [], []⟩, none, none⟩)⟩)
    fun _ => .now (.error .cancelled), false, some fun _ _ => false⟩

/-- Options with a budget that is as long. -/
def enduring : Options :=
  { Options.standard with
    initialInterval := .ofMillis 1
    maxDuration := .ofMillis (UInt64.size - 1) }

theorem distant_asks : (scenario distant enduring "job-1" (.start none)).Asks 0 0 0 1000000 := by
  have hinterval : due 0 (enduring.interval 0) = 1000000 := by decide +kernel
  exact hinterval ▸ .first (by decide +kernel)

/-- The answer is there after thirty years. -/
theorem distant_answered : (scenario distant enduring "job-1" (.start none)).Answered 0 0 0
    (1000000 + thirtyYears) (.ok ⟨.completed, some ⟨"done", [], []⟩, none, none⟩) := by
  have hlate : due 1000000 18446744073709551615000000 = 1000000 + thirtyYears :=
    due_of_le (by decide +kernel)
  exact ⟨1000000, _, distant_asks, rfl, hlate.symm⟩

/-- **Not everything is told as it is.** An answer beyond the reach of the clock
is there after thirty years. A poll whose retries are as many as can be counted
never gives up: not with the 4294967296 failures that would be one more, and
not with more. And the result that the 4294967296th slot brings is told to have
taken no slot at all. -/
theorem returns_beyond_counts :
    (distant.Calm (.start none) ∧
      (scenario distant enduring "job-1" (.start none)).Asks 0 0 0 1000000 ∧
      (scenario distant enduring "job-1" (.start none)).script 0 = some (18446744073709551615000000,
        .ok ⟨.completed, some ⟨"done", [], []⟩, none, none⟩) ∧
      SettlesAs distant enduring "job-1" (.start none) 1 (1000000 + thirtyYears)
        (.ok ⟨⟨"done", [], []⟩, 1, .ofNanos (1000000 + thirtyYears)⟩) ∧
      1000000 + thirtyYears ≠ 1000000 + 18446744073709551615000000) ∧
    (unreached.Calm (.start none) ∧ tireless.maxRetries.toNat + 1 = 4294967296 ∧
      (∀ f, ∃ t, (scenario unreached tireless "job-1" (.start none)).Answered 0 f f t
        (.error (.network "unreachable"))) ∧
      ∀ moves result, ((poll tireless "job-1" 0).run unreached .free moves (.start none)).outcome ≠
        .settled result) ∧
    ((promptly (doneAfter 4294967295)).Calm (.start none) ∧
      (∃ f q, (scenario (promptly (doneAfter 4294967295)) (waitless 0) "job-1"
        (.start none)).Answered 4294967295 f q 0
          (.ok ⟨.completed, some ⟨"done", [], []⟩, none, none⟩)) ∧
      SettlesAs (promptly (doneAfter 4294967295)) (waitless 0) "job-1" (.start none) 4294967296 0
        (.ok ⟨⟨"done", [], []⟩, 0, .ofNanos 0⟩)) := by
  have hdistant : distant.Calm (.start none) := nofun
  have hunreached : unreached.Calm (.start none) := promptly_calm _
  have hprompt := promptly_calm (doneAfter 4294967295)
  have hlast := doneAfter_answered 0 "job-1" 4294967295
  refine ⟨⟨hdistant, distant_asks, rfl, ?_, by decide +kernel⟩,
    ⟨hunreached, by decide, unreached_answered, fun moves result => ?_⟩,
    hprompt, ⟨0, 4294967295, hlast⟩, ?_⟩
  · exact (settlesAs_iff hdistant).2 (.decided (.completed distant_answered rfl rfl))
  · exact not_settled_of_unlimited hunreached (by decide) (by decide +kernel) unreached_fails moves
  · exact (settlesAs_iff hprompt).2 (.decided (.completed hlast rfl rfl))

end Poll

end Research

end Amanuensis
