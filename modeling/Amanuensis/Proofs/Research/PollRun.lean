import Amanuensis.Proofs.Research.Slot
import Amanuensis.Proofs.Task.Calm
/-!
# Runs of a poll

A calm run of the polling machine follows the slots of its scenario. One
direction is `visits_asking` and `visits_answered`: whatever the scenario
says is asked and answered, the run gets to. The other is `Stands`, an
invariant with one case for each phase of the machine, which holds at every
place of the run (`placed_of_reached`): the run gets nowhere else.
-/


namespace Amanuensis

/-- The tally after some more requests for the state of a job. -/
def Client.Tally.ahead (t : Client.Tally) (q : Nat) : Client.Tally :=
  { t with statuses := t.statuses + q }

@[simp] theorem Client.Tally.ahead_zero (t : Client.Tally) : t.ahead 0 = t := rfl

@[simp] theorem Client.Tally.count_status (t : Client.Tally) (q : Nat) (jobId : String) :
    (t.ahead q).count (.status jobId) = t.ahead (q + 1) := rfl

namespace Research

namespace Poll

open Amanuensis.Task

/-- The scenario of a poll that begins at a moment in some setting. -/
def scenario (e : Setting Event) (o : Options) (jobId : String) (m : Moment) : Scenario :=
  ⟨o, jobId, m.now, fun q => (e.client.reply (m.tally.ahead q) (.status jobId)).told⟩

namespace Scenario

variable (c : Scenario)

/-- The status last told before a request. -/
def lastTold : Nat → Status
  | 0 => .pending
  | q + 1 =>
    match c.script q with
    | some (_, .ok s) => s.status
    | _ => lastTold q

/-- Where a poll stands that has backed off so many times, has asked in so
many slots, and has made so many requests. -/
def course (k slots q : Nat) : Course :=
  ⟨c.jobId, c.startedAt, c.options.backoff k, .ofNat slots, c.lastTold q⟩

/-- The state of the machine that makes a request of slot `k + 1`. -/
def asking (k f q : Nat) : Machine :=
  match f with
  | 0 => (c.course k k q, .rested .elapsed)
  | f + 1 => (c.course k (k + 1) q, .retried (.ofNat (f + 1)) .elapsed)

/-- **Where a poll may stand** that has reported so many events and made so
many requests. The state of its machine tells how far its slots have come: one
case for each phase. -/
inductive Stands : (events requests : Nat) → Instant → Machine → Prop
  | begin : Stands 0 0 c.startedAt (c.course 0 0 0, .begin)
  | asking {k f q r} : c.Asks k f q r → Stands k q r (c.asking k f q)
  | answered {k f q t a} : c.Answered k f q t a →
      Stands k (q + 1) t (c.course k (k + 1) q, .answered (.ofNat f) (some a))
  | reported {k f q t s} : c.Answered k f q t (.ok s) →
      Stands (k + 1) (q + 1) t (c.course k (k + 1) (q + 1), .reported s)
  | exhausted {k q t message} : ¬ c.options.Unlimited →
      c.Answered k c.options.maxRetries.toNat q t (.error (.network message)) →
      Stands (k + 1) (q + 1) t (c.course k (k + 1) q,
        .exhausted (exhaustion c.jobId (c.options.maxRetries + 1) message))

variable {c} {k f q slots : Nat} {r t now : Instant} {d : Nat}

/-- A poll that has received an answer stands where it is one of a slot. -/
theorem Stands.answered_inv {n : Nat} {failures : UInt32} {course : Course}
    {a : Except Client.Error State} (h : c.Stands n q t (course, .answered failures (some a))) :
    ∃ f q', q = q' + 1 ∧ failures = .ofNat f ∧ course = c.course n (n + 1) q' ∧
      c.Answered n f q' t a := by
  generalize hs : (course, Phase.answered failures (some a)) = s at h
  cases h with
  | begin => cases hs
  | @asking _ f' => cases f' <;> cases hs
  | answered ha =>
    cases hs
    exact ⟨_, _, rfl, rfl, rfl, ha⟩
  | reported => cases hs
  | exhausted => cases hs

@[simp] theorem course_elapsed : (c.course k slots q).elapsed now = .ofNanos (now - c.startedAt) :=
  rfl

/-- A state that is told becomes the status last told. -/
theorem course_of_told {s : State} (h : c.script q = some (d, .ok s)) :
    { c.course k slots q with last := s.status } = c.course k slots (q + 1) := by
  simp only [course, lastTold, h]

/-- A request that fails leaves it as it is. -/
theorem course_of_error {e : Client.Error} (h : c.script q = some (d, .error e)) :
    c.course k slots (q + 1) = c.course k slots q := by
  simp only [course, lastTold, h]

/-- **What beginning a slot means in the budget**: the wait for its
interval. -/
theorem beginSlot_of_inBudget (h : c.InBudget now) :
    beginSlot c.options now false (c.course k slots q) =
      .wait (some (c.options.interval k)) true fun how => (c.course k slots q, .rested how) := by
  have hle : ¬ c.options.maxDuration.nanos ≤ ((c.course k slots q).elapsed now).nanos := by
    rw [course_elapsed, Duration.le_ofNanos_iff]
    exact Nat.not_le.2 h
  simp only [beginSlot, Bool.false_eq_true, if_false, if_neg hle]
  rw [show (c.course k slots q).backoff = c.options.backoff k from rfl, Options.backoff_nanos]

/-- And beyond it, that the poll returns. -/
theorem beginSlot_of_not_inBudget (h : ¬ c.InBudget now) :
    beginSlot c.options now false (c.course k slots q) =
      .settle (.error (.pollingTimeout (.ofNanos (now - c.startedAt)) (.ofNat slots))) := by
  have hle : c.options.maxDuration.nanos ≤ ((c.course k slots q).elapsed now).nanos := by
    rw [course_elapsed, Duration.le_ofNanos_iff]
    exact Nat.not_lt.1 h
  simp only [beginSlot, Bool.false_eq_true, if_false]
  rw [if_pos hle]
  rfl

theorem step_asking (cancelled : Bool) :
    step c.options now cancelled (c.asking k f q) =
      askState (c.course k (k + 1) q) (.ofNat f) := by
  cases f with
  | zero =>
    change askState { c.course k k q with count := UInt32.ofNat k + 1 } 0 = _
    rw [count_succ]
    rfl
  | succ f => rfl

theorem step_begin : step c.options now false (c.course 0 0 0, .begin) =
    beginSlot c.options now false (c.course 0 0 0) := rfl

/-- A told state leaves the poll open as long as the job is running. -/
theorem conclude_eq_none_iff {course : Course} {s : State} :
    conclude course now s = none ↔ s.status.isTerminal = false := by
  unfold conclude
  cases hs : s.status with
  | completed => cases s.result <;> simp [Status.isTerminal]
  | _ => simp [Status.isTerminal]

/-- The next slot begins then. -/
theorem step_reported_of_running {s : State} (h : s.status.isTerminal = false) :
    step c.options now false (c.course k slots q, .reported s) =
      beginSlot c.options now false (c.course (k + 1) slots q) := by
  simp only [step, conclude_eq_none_iff.2 h]
  rfl

/-- And what it is concluded with is what the answer decides. -/
theorem decides_of_conclude {s : State} {result : Except Failure Finding}
    (ha : c.Answered k f q t (.ok s))
    (h : conclude (c.course k (k + 1) (q + 1)) t s = some result) :
    c.Decides (q + 1) t result := by
  unfold conclude at h
  split at h
  · rename_i hs
    split at h <;> cases h
    · exact .completed ha hs ‹_›
    · exact .incomplete ha hs ‹_›
  · rename_i hs
    cases h
    cases he : s.error with
    | some e => exact .failed ha hs he
    | none => exact .failedSilently ha hs he
  · cases h

end Scenario

open Scenario

variable {e : Setting Event} {o : Options} {jobId : String} {m₀ m : Moment}
variable {n k f q : Nat} {r t : Instant} {s : Machine} {effects : List (Effect Event)}

/-- The moment of a run in which so many requests have been made. -/
structure Fits (e : Setting Event) (m₀ : Moment) (q : Nat) (t : Instant) (m : Moment) : Prop where
  now : m.now = t
  tally : m.tally = m₀.tally.ahead q
  calm : e.Calm m

/-- The turn of a wait. -/
theorem Fits.turn_wait (h : Fits e m₀ q t m) {span : Nat} {heeds : Bool} {next : Wake → Machine}
    (hstep : step o t false s = .wait (some span) heeds next) :
    e.turnAt (step o) m s = .ok ⟨[], m, some (due t span, next .elapsed)⟩ := by
  rw [h.calm.turnAt, h.now, hstep, h.calm.turn_wait, h.now]

theorem Fits.waited (h : Fits e m₀ q t m) (u : Instant) : Fits e m₀ q u (m.goto u) :=
  ⟨rfl, h.tally, h.calm.goto u⟩

/-- The turn of a report. -/
theorem Fits.turn_report (h : Fits e m₀ q t m) {event : Event} {next : Machine}
    (hstep : step o t false s = .report event next) :
    e.turnAt (step o) m s = .ok ⟨e.heard event t, e.told m event, some (t, next)⟩ := by
  rw [h.calm.turnAt, h.now, hstep, Task.turn_report, h.now]

theorem Fits.reported (h : Fits e m₀ q t m) (event : Event) :
    Fits e m₀ q t ((e.told m event).goto t) :=
  ⟨rfl, by rw [Moment.goto_tally, Setting.told_tally, h.tally], (h.calm.told event).goto t⟩

/-- The turn of a request. -/
theorem Fits.turn_ask (h : Fits e m₀ q t m) {c : Course} {failures : UInt32}
    (hstep : step o t false s = askState c failures) (hjob : c.jobId = jobId) :
    e.turnAt (step o) m s =
      .ok ⟨[.asked (.status jobId) t], e.sent m (.status jobId),
        ((scenario e o jobId m₀).script q).map fun w =>
          (due t w.1, (c, .answered failures (some w.2)))⟩ := by
  subst hjob
  rw [h.calm.turnAt, h.now, hstep, askState, h.calm.turn_ask, h.now, h.tally]
  rfl

theorem Fits.asked (h : Fits e m₀ q t m) (jobId : String) (u : Instant) :
    Fits e m₀ (q + 1) u ((e.sent m (.status jobId)).goto u) :=
  ⟨rfl, by rw [Moment.goto_tally, Setting.sent_tally, h.tally, Client.Tally.count_status],
    (h.calm.sent _).goto u⟩

/-- The turn that settles. -/
theorem Fits.turn_settle (h : Fits e m₀ q t m) {result : Except Failure Finding}
    (hstep : step o t false s = .settle result) : e.turnAt (step o) m s = .error result := by
  rw [h.calm.turnAt, h.now, hstep]
  rfl

/-! ## The run stands nowhere else -/

/-- What the turn at a place of a poll may be, where `n` events have been
reported and `q` requests made by instant `t`: the poll returns, goes on
without a request, or makes the next one. -/
inductive Advance (e : Setting Event) (m₀ : Moment) (c : Scenario) (n q : Nat) (t : Instant) :
    Except (Except Failure Finding) (Turn Machine Event) → Prop
  | settle {result} : c.Returns q t result → Advance e m₀ c n q t (.error result)
  | quiet {turn u next n'} : requestsOf turn.effects = [] →
      (e.listener.isSome → n' = n + (reportsOf turn.effects).length) →
      turn.resume = some (u, next) → c.Stands n' q u next → Fits e m₀ q u (turn.moment.goto u) →
      Advance e m₀ c n q t (.ok turn)
  | request {turn k f} : c.Asks k f q t → turn.effects = [.asked (.status c.jobId) t] →
      (∀ w, turn.resume = some w →
        c.Stands n (q + 1) w.1 w.2 ∧ Fits e m₀ (q + 1) w.1 (turn.moment.goto w.1)) →
      Advance e m₀ c n q t (.ok turn)

variable {c : Scenario}

/-- An event that somebody listens to is reported. -/
theorem length_reportsOf_heard {event : Event} (h : e.listener.isSome) (n : Nat) :
    n + 1 = n + (reportsOf (e.heard event t)).length := by
  rw [Setting.heard, if_pos h]
  rfl

/-- A slot begins in the budget, and else the poll returns. -/
theorem advance_beginSlot (h : Fits e m₀ q t m) (hsettled : c.Settled k q t)
    (hstep : step c.options t false s = beginSlot c.options t false (c.course k k q)) :
    Advance e m₀ c k q t (e.turnAt (step c.options) m s) := by
  by_cases hbudget : c.InBudget t
  · rw [beginSlot_of_inBudget hbudget] at hstep
    rw [h.turn_wait hstep]
    exact .quiet rfl (fun _ => rfl) rfl (.asking (hsettled.asks hbudget)) (h.waited _)
  · rw [beginSlot_of_not_inBudget hbudget] at hstep
    rw [h.turn_settle hstep]
    exact .settle (.outOfTime hsettled hbudget)

/-- **What follows a failure on the way**: a wait, if the request is repeated,
and else the report that its slot gives up. -/
theorem retry_of_repeats {course : Course} {message : String} (hallows : c.options.Allows f)
    (hmay : c.options.Repeats f) :
    retry c.options t course (.ofNat f + 1) message =
      .wait (some c.options.retryDelay.nanos) true fun how =>
        (course, .retried (.ofNat (f + 1)) how) := by
  rw [count_succ, retry, if_neg fun hlast => (Options.lt_count_iff hallows).1 hlast hmay]

theorem retry_of_not_repeats {course : Course} {message : String} (hallows : c.options.Allows f)
    (hlast : ¬ c.options.Repeats f) :
    retry c.options t course (.ofNat f + 1) message =
      .report (course.event t course.last none)
        (course, .exhausted (exhaustion course.jobId (.ofNat (f + 1)) message)) := by
  rw [count_succ, retry, if_pos ((Options.lt_count_iff hallows).2 hlast)]

/-- A failed request is repeated, or its slot gives up. -/
theorem advance_retry {message : String} (h : Fits e m₀ (q + 1) t m)
    (ha : c.Answered k f q t (.error (.network message)))
    (hstep : step c.options t false s =
      retry c.options t (c.course k (k + 1) q) (.ofNat f + 1) message) :
    Advance e m₀ c k (q + 1) t (e.turnAt (step c.options) m s) := by
  obtain ⟨r, d, hasks, hscript, rfl⟩ := id ha
  by_cases hmay : c.options.Repeats f
  · rw [retry_of_repeats hasks.allows hmay] at hstep
    rw [h.turn_wait hstep]
    have hcourse : c.course k (k + 1) (q + 1) = c.course k (k + 1) q := course_of_error hscript
    rw [← hcourse]
    exact .quiet rfl (fun _ => rfl) rfl (.asking (.again hasks hscript hmay)) (h.waited _)
  · obtain ⟨hlimited, hlast, hcount⟩ := ha.exhausted hmay
    rw [retry_of_not_repeats hasks.allows hmay, hcount] at hstep
    rw [h.turn_report hstep]
    exact .quiet (by simp) (fun hlistens => length_reportsOf_heard hlistens _) rfl
      (.exhausted hlimited hlast) (h.reported _)

/-- **What a turn of a poll does, phase by phase.** -/
theorem advance_of_stands (h : Fits e m₀ q t m)
    (hs : (scenario e o jobId m₀).Stands n q t s) :
    Advance e m₀ (scenario e o jobId m₀) n q t (e.turnAt (step o) m s) := by
  cases hs with
  | begin => exact advance_beginSlot h .none step_begin
  | @asking _ f q r hasks =>
    have hstep : step o t false ((scenario e o jobId m₀).asking n f q) =
        askState ((scenario e o jobId m₀).course n (n + 1) q) (.ofNat f) := step_asking false
    rw [h.turn_ask hstep rfl]
    refine .request hasks rfl fun w hw => ?_
    obtain ⟨⟨d, a⟩, hscript, rfl⟩ := Option.map_eq_some_iff.1 hw
    exact ⟨.answered ⟨t, d, hasks, hscript, rfl⟩, h.asked _ _⟩
  | @answered _ f q t a ha =>
    match a with
    | .ok s =>
      obtain ⟨r, d, hasks, hscript, rfl⟩ := ha
      rw [h.turn_report rfl, course_of_told hscript]
      exact .quiet (by simp) (fun hlistens => length_reportsOf_heard hlistens _) rfl
        (.reported ⟨r, d, hasks, hscript, rfl⟩) (h.reported _)
    | .error (.network message) => exact advance_retry h ha rfl
    | .error .cancelled =>
      rw [h.turn_settle rfl]
      exact .settle (.decided (.cancelled ha))
    | .error (.api code message) =>
      rw [h.turn_settle rfl]
      exact .settle (.decided (.refused ha (by simp) rfl))
    | .error (.invalidResponse message) =>
      rw [h.turn_settle rfl]
      exact .settle (.decided (.refused ha (by simp) rfl))
    | .error (.invalidRequest message) =>
      rw [h.turn_settle rfl]
      exact .settle (.decided (.refused ha (by simp) rfl))
  | @reported k f q t s ha =>
    cases hconclude : conclude ((scenario e o jobId m₀).course k (k + 1) (q + 1)) t s with
    | some result =>
      have hstep : step o t false ((scenario e o jobId m₀).course k (k + 1) (q + 1), .reported s) =
          .settle result := by simp only [step, hconclude]
      rw [h.turn_settle hstep]
      exact .settle (.decided (decides_of_conclude ha hconclude))
    | none =>
      have hrunning := conclude_eq_none_iff.1 hconclude
      exact advance_beginSlot h (.slot ha hrunning) (step_reported_of_running hrunning)
  | exhausted hlimited ha =>
    rw [h.turn_settle rfl]
    exact .settle (.decided (.exhausted hlimited ha))

/-- Requests of a poll, as its slots make them. -/
def Made (c : Scenario) (requests : List (Client.Request × Instant)) : Prop :=
  ∀ q p, requests[q]? = some p → ∃ k f r, c.Asks k f q r ∧ p = (.status c.jobId, r)

theorem made_nil : Made c [] := by
  intro q p h
  simp at h

theorem Made.concat {requests : List (Client.Request × Instant)} (h : Made c requests)
    (hasks : c.Asks k f requests.length r) : Made c (requests ++ [(.status c.jobId, r)]) := by
  intro q p hq
  rw [List.getElem?_append] at hq
  split at hq
  · exact h q p hq
  · have hlt := (List.getElem?_eq_some_iff.1 hq).1
    rw [List.length_singleton] at hlt
    obtain rfl : q = requests.length := by omega
    rw [Nat.sub_self] at hq
    obtain rfl := Option.some.inj hq
    exact ⟨k, f, r, hasks, rfl⟩

/-- What has come of a calm poll where it stands: so many events, if anybody
listens, and the requests of its slots. -/
structure Placed (e : Setting Event) (m₀ : Moment) (c : Scenario) (n q : Nat)
    (effects : List (Effect Event)) (m : Moment) (s : Machine) : Prop where
  stands : c.Stands n q m.now s
  fits : Fits e m₀ q m.now m
  events : e.listener.isSome → (reportsOf effects).length = n
  requests : (requestsOf effects).length = q
  made : Made c (requestsOf effects)

/-- **The invariant of a calm poll.** At every place of its run the machine
stands where the slots have come to, and the requests are those of the
slots. -/
theorem placed_of_reached (hcalm : e.Calm m₀)
    (h : Reached (step o) e .free m₀ (start o jobId m₀.now) n effects m s) :
    ∃ told q, Placed e m₀ (scenario e o jobId m₀) told q effects m s := by
  induction h with
  | start => exact ⟨0, 0, .begin, ⟨rfl, rfl, hcalm⟩, fun _ => rfl, rfl, made_nil⟩
  | @move n effects m s turn u next _ hturn _ hresume ih =>
    obtain ⟨told, q, hstands, hfits, hevents, hrequests, hmade⟩ := ih
    have hadvance := advance_of_stands hfits hstands
    rw [hturn] at hadvance
    -- a turn that goes on makes no request or the next one
    cases hadvance with
    | @quiet _ _ _ told' hnone htold hresume' hstands' hfits' =>
      obtain ⟨rfl, rfl⟩ := Prod.mk.inj (Option.some.inj (hresume.symm.trans hresume'))
      refine ⟨told', q, hstands', hfits', fun hlistens => ?_, ?_, ?_⟩
      · rw [reportsOf_append, List.length_append, hevents hlistens, htold hlistens]
      · rwa [requestsOf_append, hnone, List.append_nil]
      · rwa [requestsOf_append, hnone, List.append_nil]
    | request hasks heffects hnext =>
      obtain ⟨hstands', hfits'⟩ := hnext _ hresume
      refine ⟨told, q + 1, hstands', hfits', fun hlistens => ?_, ?_, ?_⟩
      · rw [reportsOf_append, heffects, reportsOf_asked, List.append_nil, hevents hlistens]
      · rw [requestsOf_append, heffects, requestsOf_asked, List.length_append, hrequests,
          List.length_singleton]
      · subst hrequests
        rw [requestsOf_append, heffects, requestsOf_asked]
        exact hmade.concat hasks

/-- **Every request of a calm poll is one that a slot makes**, however far
the run gets. -/
theorem made_of_run (hcalm : e.Calm m₀) (moves : Nat) :
    Made (scenario e o jobId m₀)
      (requestsOf ((poll o jobId m₀.now).run e .free moves m₀).effects) := by
  have hends : Ends (step o) e .free m₀ (start o jobId m₀.now) moves
      ((poll o jobId m₀.now).run e .free moves m₀) := runFrom_ends moves m₀ _
  generalize (poll o jobId m₀.now).run e .free moves m₀ = r at hends
  cases hends with
  | unfinished hreached =>
    obtain ⟨_, _, hplaced⟩ := placed_of_reached hcalm hreached
    exact hplaced.made
  | settled hreached =>
    obtain ⟨_, _, hplaced⟩ := placed_of_reached hcalm hreached
    exact hplaced.made
  | lost _ _ _ hbeats =>
    rw [Race.beats_free] at hbeats
    cases hbeats
  | stuck hreached _ hturn _ hresume =>
    -- only a request can wait forever
    obtain ⟨_, q, hstands, hfits, -, hrequests, hmade⟩ := placed_of_reached hcalm hreached
    have hadvance := advance_of_stands hfits hstands
    rw [hturn] at hadvance
    cases hadvance with
    | quiet _ _ hresume' =>
      rw [hresume] at hresume'
      cases hresume'
    | request hasks heffects =>
      subst hrequests
      rw [requestsOf_append, heffects, requestsOf_asked]
      exact hmade.concat hasks

/-! ## The run gets wherever the slots do -/

/-- A calm run of a poll gets to a state of its machine at an instant, after
so many requests. -/
def Visits (e : Setting Event) (o : Options) (jobId : String) (m₀ : Moment) (q : Nat) (t : Instant)
    (s : Machine) : Prop :=
  ∃ n effects m, Reached (step o) e .free m₀ (start o jobId m₀.now) n effects m s ∧
    Fits e m₀ q t m

theorem Visits.wait (h : Visits e o jobId m₀ q t s) {span : Nat} {heeds : Bool}
    {next : Wake → Machine} (hstep : step o t false s = .wait (some span) heeds next) :
    Visits e o jobId m₀ q (due t span) (next .elapsed) := by
  obtain ⟨n, effects, m, hreached, hfits⟩ := h
  exact ⟨_, _, _, hreached.free_move (hfits.turn_wait hstep) rfl, hfits.waited _⟩

theorem Visits.report (h : Visits e o jobId m₀ q t s) {event : Event} {next : Machine}
    (hstep : step o t false s = .report event next) : Visits e o jobId m₀ q t next := by
  obtain ⟨n, effects, m, hreached, hfits⟩ := h
  exact ⟨_, _, _, hreached.free_move (hfits.turn_report hstep) rfl, hfits.reported _⟩

theorem Visits.ask (h : Visits e o jobId m₀ q t s) {c : Course} {failures : UInt32} {d : Nat}
    {a : Except Client.Error State} (hstep : step o t false s = askState c failures)
    (hjob : c.jobId = jobId) (hscript : (scenario e o jobId m₀).script q = some (d, a)) :
    Visits e o jobId m₀ (q + 1) (due t d) (c, .answered failures (some a)) := by
  obtain ⟨n, effects, m, hreached, hfits⟩ := h
  refine ⟨_, _, _, hreached.free_move (hfits.turn_ask hstep hjob) ?_, hfits.asked jobId _⟩
  rw [hscript]
  rfl

/-- **Every request of the slots is made.** -/
theorem visits_asking (hcalm : e.Calm m₀) (h : (scenario e o jobId m₀).Asks k f q r) :
    Visits e o jobId m₀ q r ((scenario e o jobId m₀).asking k f q) := by
  induction h with
  | first hbudget =>
    have hstart : Visits e o jobId m₀ 0 m₀.now (start o jobId m₀.now) :=
      ⟨0, [], m₀, .start, rfl, rfl, hcalm⟩
    exact hstart.wait (step_begin.trans (beginSlot_of_inBudget hbudget))
  | @next k f q r d s _ hscript hrunning hbudget ih =>
    have hanswered := ih.ask (step_asking false) rfl hscript
    have hreported := hanswered.report rfl
    rw [course_of_told hscript] at hreported
    exact hreported.wait ((step_reported_of_running hrunning).trans (beginSlot_of_inBudget hbudget))
  | @again k f q r d message hasks hscript hmay ih =>
    have hanswered := ih.ask (step_asking false) rfl hscript
    have hcourse : (scenario e o jobId m₀).course k (k + 1) (q + 1) =
        (scenario e o jobId m₀).course k (k + 1) q := course_of_error hscript
    have hwaited := hanswered.wait (retry_of_repeats hasks.allows hmay)
    rwa [← hcourse] at hwaited

/-- It stands in the run at its place among the requests, however many more
moves there are. -/
theorem requested_of_asks (hcalm : e.Calm m₀) (h : (scenario e o jobId m₀).Asks k f q r) :
    ∃ n, ∀ moves, n ≤ moves →
      (requestsOf ((poll o jobId m₀.now).run e .free moves m₀).effects)[q]? =
        some (.status jobId, r) := by
  obtain ⟨n, effects, m, hreached, hfits⟩ := visits_asking hcalm h
  obtain ⟨_, q', hplaced⟩ := placed_of_reached hcalm hreached
  have hcount : m₀.tally.statuses + q' = m₀.tally.statuses + q :=
    congrArg Client.Tally.statuses (hplaced.fits.tally.symm.trans hfits.tally)
  have hlength : (requestsOf effects).length = q :=
    hplaced.requests.trans (Nat.add_left_cancel hcount)
  refine ⟨n + 1, fun moves hle => ?_⟩
  obtain ⟨rest, heffects⟩ :=
    hreached.effects_prefix (hfits.turn_ask (step_asking false) rfl) hle
  change (requestsOf (runFrom (step o) e .free moves m₀ (start o jobId m₀.now)).effects)[q]? = _
  rw [← heffects, requestsOf_append, requestsOf_append, requestsOf_asked, List.append_assoc,
    List.getElem?_append_right (Nat.le_of_eq hlength), hlength, Nat.sub_self]
  rfl

/-- And so is every answer received. -/
theorem visits_answered (hcalm : e.Calm m₀) {a : Except Client.Error State}
    (h : (scenario e o jobId m₀).Answered k f q t a) :
    Visits e o jobId m₀ (q + 1) t ((scenario e o jobId m₀).course k (k + 1) q,
      .answered (.ofNat f) (some a)) := by
  obtain ⟨r, d, hasks, hscript, rfl⟩ := h
  exact (visits_asking hcalm hasks).ask (step_asking false) rfl hscript

/-- A told state is reported. -/
theorem visits_reported (hcalm : e.Calm m₀) {s : State}
    (h : (scenario e o jobId m₀).Answered k f q t (.ok s)) :
    Visits e o jobId m₀ (q + 1) t ((scenario e o jobId m₀).course k (k + 1) (q + 1),
      .reported s) := by
  have hreported := (visits_answered hcalm h).report rfl
  obtain ⟨r, d, -, hscript, -⟩ := h
  rwa [course_of_told hscript] at hreported

/-- **Where the slots settle, the next one is begun.** -/
theorem visits_settled (hcalm : e.Calm m₀) (h : (scenario e o jobId m₀).Settled k q t) :
    ∃ s, Visits e o jobId m₀ q t s ∧
      step o t false s = beginSlot o t false ((scenario e o jobId m₀).course k k q) := by
  cases h with
  | none => exact ⟨_, ⟨0, [], m₀, .start, rfl, rfl, hcalm⟩, rfl⟩
  | slot h hrunning => exact ⟨_, visits_reported hcalm h, step_reported_of_running hrunning⟩

/-! ## A service to try it on -/

/-- A service that cannot be reached at first, is still at work when it is
asked again, and has the report when it is asked for the third time. -/
def thirdTimeClient : Client :=
  .ofSequences (fun _ => .now (.error .cancelled))
    (Client.sequence
      [⟨false, some 5000000, false, some (.error (.network "reset"))⟩,
        .now (.ok (.ofStatus .pending))]
      (.now (.ok ⟨.completed, some ⟨"done", [], []⟩, none, none⟩)))
    fun _ => .now (.error .cancelled)

/-- A caller who listens to that service and has a signal that nobody
cancels. -/
def thirdTime : Setting Event := ⟨thirdTimeClient, true, some fun _ _ => false⟩

theorem thirdTimeClient_cancels (tally : Client.Tally) (q : Client.Request) :
    (thirdTimeClient.reply tally q).cancels = false := by
  cases q with
  | create order => rfl
  | status jobId =>
    obtain ⟨creations, statuses, generations⟩ := tally
    match statuses with
    | 0 => rfl
    | 1 => rfl
    | statuses + 2 => rfl
  | generate endpoint body => rfl

theorem thirdTime_quiet : thirdTime.Quiet where
  client := thirdTimeClient_cancels
  listener := by
    rintro cancels ⟨⟩ n event
    rfl

theorem thirdTime_calm : thirdTime.Calm (.start none) := fun _ => ⟨thirdTime_quiet, rfl⟩

end Poll

end Research

end Amanuensis
