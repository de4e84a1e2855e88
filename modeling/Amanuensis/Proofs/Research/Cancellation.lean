import Amanuensis.Proofs.Research.Moves
import Amanuensis.Proofs.Research.PollRun
/-!
# Cancelling a poll

Cancellation truncates a poll. Every wait and every request of it carries the
signal, so a poll that is cancelled from outside at an instant `c` does what
it would have done before `c`, and returns at `c`; and one that is cancelled
by its listener returns with the event that is being reported. Both are
properties of machines of a kind (`Obedient`, `Busy` and `Prompt`), which the
polling machine is of phase by phase.
-/


namespace Amanuensis

namespace Research

namespace Poll

open Amanuensis.Task Scenario

/-! ## From outside -/

variable {e : Setting Event} {o : Options} {jobId : String} {m : Moment} {c : Instant}

/-- A poll that is cancelled before it begins returns at once. -/
theorem settles_when_cancelled (hsignalled : e.signalled = true) {moves : Nat}
    (hmoves : 0 < moves) :
    (poll o jobId m.now).run e .free moves (m.stopAt m.now) =
      ⟨[], .settled (.error .pollingCancelled), m.stopAt m.now⟩ := by
  have hcancelled : (m.stopAt m.now).cancelled e.signalled = true := by
    rw [hsignalled]
    exact decide_eq_true (Nat.le_refl _)
  refine Ends.runFrom_eq (.settled .start hmoves ?_)
  rw [Setting.turnAt, hcancelled]
  rfl

/-- **A poll that returns before the cancellation is not changed by it.** -/
theorem run_stopAt_of_settled (hcalm : e.Calm m) (hsignalled : e.signalled = true) {moves : Nat}
    {result : Except Failure Finding}
    (hsettled : ((poll o jobId m.now).run e .free moves m).outcome = .settled result)
    (hlt : ((poll o jobId m.now).run e .free moves m).moment.now < c) :
    (poll o jobId m.now).run e .free moves (m.stopAt c) =
      ⟨((poll o jobId m.now).run e .free moves m).effects, .settled result,
        ((poll o jobId m.now).run e .free moves m).moment.stopAt c⟩ := by
  have hends : Ends (step o) e .free m (start o jobId m.now) moves
      ((poll o jobId m.now).run e .free moves m) := runFrom_ends moves m _
  generalize (poll o jobId m.now).run e .free moves m = r at hsettled hlt hends ⊢
  cases hends with
  | unfinished => cases hsettled
  | settled h hmoves hturn =>
    cases hsettled
    obtain ⟨h', hturn'⟩ := h.settles_before_stop (step_obedient o) hcalm hsignalled hlt hturn
    exact Ends.runFrom_eq (.settled h' hmoves hturn')
  | lost => cases hsettled
  | stuck => cases hsettled

/-- **A poll that does not is cut off by it**, if it makes finitely many
requests before. -/
theorem run_stopAt_of_open (hcalm : e.Calm m) (hsignalled : e.signalled = true) (hle : m.now ≤ c)
    (hfinite : ∃ most, ∀ moves,
      ((requestsOf ((poll o jobId m.now).run e .free moves m).effects).filter
        (·.2 < c)).length ≤ most)
    (hopen : ∀ moves result,
      ((poll o jobId m.now).run e .free moves m).outcome = .settled result →
        c ≤ ((poll o jobId m.now).run e .free moves m).moment.now) :
    ∃ n, ∀ moves, n ≤ moves →
      ((poll o jobId m.now).run e .free moves (m.stopAt c)).outcome =
        .settled (.error .pollingCancelled) ∧
      ((poll o jobId m.now).run e .free moves (m.stopAt c)).moment.now = c ∧
      ((poll o jobId m.now).run e .free moves (m.stopAt c)).effects =
        ((poll o jobId m.now).run e .free moves m).effects.filter (·.time < c) := by
  rcases Nat.eq_or_lt_of_le hle with rfl | hlt
  · -- nothing happens before the poll begins
    refine ⟨1, fun moves hmoves => ?_⟩
    rw [settles_when_cancelled hsignalled hmoves]
    refine ⟨rfl, rfl, (List.filter_eq_nil_iff.2 fun x hx hbefore => ?_).symm⟩
    exact absurd (of_decide_eq_true hbefore) (Nat.not_lt.2 (le_time_of_mem_runFrom hx))
  · obtain ⟨n, effects, m', s, turn, h, hnow, hturn, hlast⟩ :=
      (step_busy o).exists_last hlt hfinite fun n effects m' s settled h hturn => by
        obtain ⟨moves, hrun⟩ := runFrom_settled_iff.2 ⟨n, s, h, hturn⟩
        have hle := hopen moves settled
        rw [show (poll o jobId m.now).run e .free moves m = _ from hrun] at hle
        exact hle rfl
    obtain ⟨next, hnext, hsettles⟩ :=
      h.settles_at_stop (step_obedient o) hcalm hsignalled hnow hturn hlast
    refine ⟨n + 2, fun moves hmoves => ?_⟩
    have hrun : (poll o jobId m.now).run e .free moves (m.stopAt c) = _ :=
      Ends.runFrom_eq (.settled hnext hmoves hsettles)
    rw [hrun]
    exact ⟨rfl, rfl, (h.effects_before hnow hturn hlast (by omega)).symm⟩

/-! ## From inside -/

/-- What a poll returns that is cancelled while it reports an event, after
so many requests: what its answers have decided by then, and else that it
has been cancelled. -/
def Scenario.Interrupted (c : Scenario) (requests : Nat) (t : Instant)
    (result : Except Failure Finding) : Prop :=
  c.Decides requests t result ∨
    (∀ decided, ¬ c.Decides requests t decided) ∧ result = .error .pollingCancelled

namespace Scenario

variable {c : Scenario} {n q d : Nat} {t : Instant}

/-- Of the told states only terminal ones decide. -/
theorem Decides.isTerminal {state : State} {result : Except Failure Finding}
    (h : c.Decides (q + 1) t result) (hscript : c.script q = some (d, .ok state)) :
    state.status.isTerminal = true := by
  have hanswer : ∀ {k f a}, c.Answered k f q t a → a = .ok state := by
    rintro k f a ⟨r, d', -, hscript', -⟩
    exact (Prod.mk.inj (Option.some.inj (hscript'.symm.trans hscript))).2
  cases h with
  | completed ha hs =>
    cases hanswer ha
    rw [hs]
    rfl
  | incomplete ha hs =>
    cases hanswer ha
    rw [hs]
    rfl
  | failed ha hs =>
    cases hanswer ha
    rw [hs]
    rfl
  | failedSilently ha hs =>
    cases hanswer ha
    rw [hs]
    rfl
  | cancelled ha => cases hanswer ha
  | refused ha => cases hanswer ha
  | exhausted _ ha => cases hanswer ha

/-- **What comes after an event if the signal is cancelled by then.** -/
theorem interrupted_of_report {s next : Machine} {event : Event} {result : Except Failure Finding}
    (hstands : c.Stands n q t s) (hreport : step c.options t false s = .report event next)
    (hsettle : step c.options t true next = .settle result) : c.Interrupted q t result := by
  have hshape := step_shape c.options t false s
  rw [hreport] at hshape
  cases hshape with
  | tell =>
    obtain ⟨f, q, rfl, -, rfl, ha⟩ := hstands.answered_inv
    obtain ⟨r, d, -, hscript, -⟩ := id ha
    cases hreport
    rw [course_of_told hscript, step] at hsettle
    split at hsettle
    · rename_i decided hconclude
      cases hsettle
      exact .inl (decides_of_conclude ha hconclude)
    · rename_i hconclude
      cases hsettle
      have hrunning := conclude_eq_none_iff.1 hconclude
      -- a running job has decided nothing
      refine .inr ⟨fun decided hdecides => ?_, rfl⟩
      rw [hdecides.isTerminal hscript] at hrunning
      cases hrunning
  | giveUp hgiveUp =>
    obtain ⟨f, q, rfl, rfl, rfl, ha⟩ := hstands.answered_inv
    obtain ⟨r, d, hasks, -, -⟩ := id ha
    rw [count_succ] at hgiveUp hsettle
    obtain ⟨hlimited, hlast, hcount⟩ :=
      ha.exhausted ((Options.lt_count_iff hasks.allows).1 hgiveUp)
    rw [hcount] at hsettle
    cases hsettle
    exact .inl (.exhausted hlimited hlast)

end Scenario

/-- A poll whose listener cancels it returns with the event. -/
theorem run_interrupted {cancels : Nat → Event → Bool} {moves : Nat} {event : Event} {t : Instant}
    {before after : List (Effect Event)} (hsignalled : e.signalled = true)
    (hclient : ∀ tally q, (e.client.reply tally q).cancels = false)
    (hstop : m.stop = none) (hlistener : e.listener = some cancels)
    (heffects : ((poll o jobId m.now).run e .free moves m).effects =
      before ++ .reported event t :: after)
    (hcancels : cancels (m.heard + (reportsOf before).length) event = true) :
    after = [] ∧ ∃ result,
      (scenario e o jobId m).Interrupted (requestsOf before).length t result ∧
        ∃ n, ∀ moves, n ≤ moves →
          ((poll o jobId m.now).run e .free moves m).outcome = .settled result ∧
          ((poll o jobId m.now).run e .free moves m).moment.now = t ∧
          ((poll o jobId m.now).run e .free moves m).effects =
            before ++ [.reported event t] := by
  obtain ⟨hnil, n, m', s, next, result, h, rfl, hreport, hsettle, n', m'', hnow, hrun⟩ :=
    runFrom_interrupted (step_prompt o) (step_obedient o).neverCancels hsignalled hclient hlistener
      hstop heffects hcancels
  obtain ⟨_, q, hstands, -, -, rfl, -⟩ := placed_of_reached (Setting.patient_calm hclient hstop) h
  refine ⟨hnil, result, interrupted_of_report hstands hreport hsettle, n', fun moves hle => ?_⟩
  rw [show (poll o jobId m.now).run e .free moves m = _ from hrun moves hle]
  exact ⟨rfl, hnow, rfl⟩

/-- **Cancellation truncates a poll.** Of a poll whose signal nothing has
cancelled yet, whether or not its client heeds the signal as well:

From outside, at an instant `c` before which the poll makes finitely many
requests: if the poll returns before `c` then the cancelled run is the same,
and otherwise the cancelled run returns at `c` that it has been cancelled,
and its requests and events are those of the other one before `c`. What
falls on `c` itself comes after the cancellation.

From inside, by the listener while an event is reported: nothing happens
after the event, and the poll returns what the answers received have
decided, or else that it has been cancelled. -/
theorem poll_cancelled (e : Setting Event) (o : Options) (jobId : String) (m : Moment)
    (hsignalled : e.signalled = true)
    (hclient : ∀ tally q, (e.client.reply tally q).cancels = false)
    (hstop : m.stop = none) :
    let whole := fun moves => (poll o jobId m.now).run e .free moves m
    (∀ c, e.Quiet → m.now ≤ c →
      (∃ most, ∀ moves,
        ((requestsOf (whole moves).effects).filter (·.2 < c)).length ≤ most) →
      let cut := fun moves => (poll o jobId m.now).run e .free moves (m.stopAt c)
      (∀ moves result,
        (whole moves).outcome = .settled result → (whole moves).moment.now < c →
          cut moves =
            ⟨(whole moves).effects, .settled result, (whole moves).moment.stopAt c⟩) ∧
      ((∀ moves result,
        (whole moves).outcome = .settled result → c ≤ (whole moves).moment.now) →
          ∃ n, ∀ moves, n ≤ moves →
            (cut moves).outcome = .settled (.error .pollingCancelled) ∧
            (cut moves).moment.now = c ∧
            (cut moves).effects = (whole moves).effects.filter (·.time < c))) ∧
    (∀ cancels moves before event t after, e.listener = some cancels →
      (whole moves).effects = before ++ .reported event t :: after →
      cancels (m.heard + (reportsOf before).length) event = true →
      after = [] ∧ ∃ result,
        (scenario e o jobId m).Interrupted (requestsOf before).length t result ∧
          ∃ n, ∀ moves, n ≤ moves →
            (whole moves).outcome = .settled result ∧ (whole moves).moment.now = t ∧
            (whole moves).effects = before ++ [.reported event t]) := by
  refine ⟨fun c hquiet hle hfinite => ⟨?_, ?_⟩, ?_⟩
  · intro moves result hsettled hlt
    exact run_stopAt_of_settled (fun _ => ⟨hquiet, hstop⟩) hsignalled hsettled hlt
  · exact run_stopAt_of_open (fun _ => ⟨hquiet, hstop⟩) hsignalled hle hfinite
  · intro cancels moves before event t after hlistener heffects hcancels
    exact run_interrupted hsignalled hclient hstop hlistener heffects hcancels

/-- The caller of `thirdTime` with a listener who cancels the poll at the
first event. -/
def thirdTimeHasty : Setting Event := { thirdTime with listener := some fun n _ => n == 0 }

/-- Cancelled after ten seconds the poll is cut off in its second slot, after
twenty seconds it has returned, and its first event comes after two
requests. -/
theorem thirdTime_cancelled :
    let whole := fun moves => (poll .standard "job-1" 0).run thirdTime .free moves (.start none)
    let cut := fun c moves =>
      (poll .standard "job-1" 0).run thirdTime .free moves ((Moment.start none).stopAt c)
    let hasty := fun moves =>
      (poll .standard "job-1" 0).run thirdTimeHasty .free moves (.start none)
    (∃ n, ∀ moves, n ≤ moves →
      (cut 10000000000 moves).outcome = .settled (.error .pollingCancelled) ∧
      (cut 10000000000 moves).moment.now = 10000000000 ∧
      (cut 10000000000 moves).effects = (whole moves).effects.filter (·.time < 10000000000)) ∧
    cut 20000000000 10 =
      ⟨(whole 10).effects, .settled (.ok ⟨⟨"done", [], []⟩, 2, .ofNanos 16005000000⟩),
        (whole 10).moment.stopAt 20000000000⟩ ∧
    ∃ result, (scenario thirdTimeHasty .standard "job-1" (.start none)).Interrupted 2 6005000000
        result ∧
      ∃ n, ∀ moves, n ≤ moves → (hasty moves).outcome = .settled result ∧
        (hasty moves).moment.now = 6005000000 ∧
        (hasty moves).effects =
          [.asked (.status "job-1") 5000000000, .asked (.status "job-1") 6005000000] ++
            [.reported ⟨.pending, 1, .ofNanos 6005000000, none⟩ 6005000000] := by
  intro whole cut hasty
  have hsettled : (whole 10).outcome =
      .settled (.ok ⟨⟨"done", [], []⟩, 2, .ofNanos 16005000000⟩) := rfl
  have hover : (whole 10).outcome ≠ .unfinished := fun h => by cases hsettled.symm.trans h
  have hthirdTime := poll_cancelled thirdTime .standard "job-1" (.start none) rfl
    thirdTimeClient_cancels rfl
  have hhasty := poll_cancelled thirdTimeHasty .standard "job-1" (.start none) rfl
    thirdTimeClient_cancels rfl
  refine ⟨?_, ?_, ?_⟩
  · refine (hthirdTime.1 10000000000 thirdTime_quiet (Nat.zero_le _)
      (exists_requests_le hover _)).2 fun moves result hresult => ?_
    have hsame : whole moves = whole 10 :=
      runFrom_eq_of_over (fun h => by cases hresult.symm.trans h) hover
    change 10000000000 ≤ (whole moves).moment.now
    rw [hsame]
    decide
  · exact (hthirdTime.1 20000000000 thirdTime_quiet (Nat.zero_le _)
      (exists_requests_le hover _)).1 10 _ hsettled (by decide)
  · exact (hhasty.2 _ 10 [.asked (.status "job-1") 5000000000, .asked (.status "job-1") 6005000000]
      ⟨.pending, 1, .ofNanos 6005000000, none⟩ 6005000000 [] rfl rfl rfl).2

end Poll

end Research

end Amanuensis
