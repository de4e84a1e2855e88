import Amanuensis.Proofs.Research.Moves
import Amanuensis.Proofs.Research.Schedule
import Amanuensis.Proofs.Task.Receipts
/-!
# What the slots of a poll tell

Each slot of a calm poll that gets to its last answer tells the listener one
event, and the events come in the order of the slots: event `k` is that of slot
`k + 1` (`hears_iff`). What it says is what the slot was answered.
-/


namespace Amanuensis

namespace Research

namespace Poll

open Amanuensis.Task

/-- The event of slot `k + 1`, and its instant. -/
inductive Scenario.Tells (c : Scenario) : (k : Nat) → Event → Instant → Prop
  | told {k f q t s} : c.Answered k f q t (.ok s) →
      Tells c k ⟨s.status, .ofNat (k + 1), .ofNanos (t - c.startedAt), s.progress⟩ t
  | exhausted {k q t message} : ¬ c.options.Unlimited →
      c.Answered k c.options.maxRetries.toNat q t (.error (.network message)) →
      Tells c k ⟨c.lastTold q, .ofNat (k + 1), .ofNanos (t - c.startedAt), none⟩ t

/-- The listener of a poll hears an event at an instant, after so many
others. -/
def Hears (e : Setting Event) (o : Options) (jobId : String) (m : Moment) (k : Nat) (event : Event)
    (t : Instant) : Prop :=
  ∃ moves,
    (reportsOf ((poll o jobId m.now).run e .free moves m).effects)[k]? = some (event, t)

open Scenario

variable {e : Setting Event} {o : Options} {jobId : String} {m₀ m : Moment} {c : Scenario}
variable {k f q n : Nat} {t : Instant} {s : Machine} {event : Event} {turn : Turn Machine Event}

/-- What a slot tells of a failure on the way that is not repeated. -/
theorem Scenario.Tells.of_not_repeats {message : String}
    (h : c.Answered k f q t (.error (.network message))) (hlast : ¬ c.options.Repeats f) :
    c.Tells k ((c.course k (k + 1) q).event t (c.lastTold q) none) t := by
  obtain ⟨hlimited, hanswered, -⟩ := h.exhausted hlast
  exact .exhausted hlimited hanswered

/-- Without a limit to its retries a poll tells nothing as long as the service
cannot be reached. -/
theorem Scenario.not_tells_of_unlimited (hunlimited : c.options.Unlimited)
    (hfails : ∀ q, c.Fails q) : ¬ c.Tells k event t := by
  intro h
  cases h with
  | told ha =>
    obtain ⟨message, heq⟩ := ha.of_fails (hfails _)
    cases heq
  | exhausted hlimited => exact hlimited hunlimited

/-- Nothing is heard where nobody listens. -/
theorem listens_of_heard {x : Event × Instant} (h : (reportsOf (e.heard event t))[k]? = some x) :
    e.listener.isSome ∧ k = 0 ∧ x = (event, t) := by
  unfold Setting.heard at h
  split at h
  · rename_i hlistens
    obtain ⟨hlt, rfl⟩ := List.getElem?_eq_some_iff.1 h
    obtain rfl : k = 0 := Nat.lt_one_iff.1 hlt
    exact ⟨hlistens, rfl, rfl⟩
  · cases h

/-- **What a turn of a poll tells** is the event of the slot that it stands
in, and no other. -/
theorem tells_of_turn (hfits : Fits e m₀ q t m) (hstands : (scenario e o jobId m₀).Stands n q t s)
    (hturn : e.turnAt (step o) m s = .ok turn) {x : Event × Instant}
    (hx : (reportsOf turn.effects)[k]? = some x) :
    e.listener.isSome ∧ k = 0 ∧ (scenario e o jobId m₀).Tells n x.1 x.2 := by
  have hshape := step_shape o t false s
  rw [hfits.calm.turnAt, hfits.now] at hturn
  by_cases hmove : ∃ event next, step o t false s = .report event next
  · obtain ⟨event, next, hstep⟩ := hmove
    rw [hstep, Task.turn_report, hfits.now] at hturn
    cases hturn
    obtain ⟨hlistens, rfl, rfl⟩ := listens_of_heard hx
    refine ⟨hlistens, rfl, ?_⟩
    rw [hstep] at hshape
    -- only an answer is reported
    cases hshape with
    | tell =>
      obtain ⟨f, q', rfl, -, rfl, ha⟩ := hstands.answered_inv
      exact .told ha
    | giveUp hlast =>
      obtain ⟨f, q', rfl, rfl, rfl, ha⟩ := hstands.answered_inv
      obtain ⟨r, d, hasks, -⟩ := id ha
      rw [count_succ] at hlast
      exact .of_not_repeats ha ((Options.lt_count_iff hasks.allows).1 hlast)
  · have hnone := reportsOf_turn (fun event next hstep => hmove ⟨event, next, hstep⟩) hturn
    rw [hnone] at hx
    cases hx

/-- Events that are those of the slots, in their order. -/
def Told (e : Setting Event) (c : Scenario) (reports : List (Event × Instant)) : Prop :=
  ∀ k x, reports[k]? = some x → e.listener.isSome ∧ c.Tells k x.1 x.2

/-- The reports of a turn follow those that have been told before it. -/
theorem Told.after_turn {effects : List (Effect Event)}
    (hplaced : Placed e m₀ (scenario e o jobId m₀) n q effects m s)
    (htold : Told e (scenario e o jobId m₀) (reportsOf effects))
    (hturn : e.turnAt (step o) m s = .ok turn) :
    Told e (scenario e o jobId m₀) (reportsOf (effects ++ turn.effects)) := by
  intro k x hx
  rw [reportsOf_append, List.getElem?_append] at hx
  split at hx
  · exact htold k x hx
  · obtain ⟨hlistens, hk, htells⟩ := tells_of_turn hplaced.fits hplaced.stands hturn hx
    have hlength := hplaced.events hlistens
    obtain rfl : k = n := by omega
    exact ⟨hlistens, htells⟩

/-- The events on the way to a place are those of the slots. -/
theorem told_of_reached (hcalm : e.Calm m₀) {effects : List (Effect Event)}
    (h : Reached (step o) e .free m₀ (start o jobId m₀.now) n effects m s) :
    Told e (scenario e o jobId m₀) (reportsOf effects) := by
  induction h with
  | start => nofun
  | move hreached hturn _ _ ih =>
    obtain ⟨_, _, hplaced⟩ := placed_of_reached hcalm hreached
    exact ih.after_turn hplaced hturn

/-- And so are all events of its run. -/
theorem told_of_run (hcalm : e.Calm m₀) (moves : Nat) :
    Told e (scenario e o jobId m₀)
      (reportsOf ((poll o jobId m₀.now).run e .free moves m₀).effects) := by
  have hends : Ends (step o) e .free m₀ (start o jobId m₀.now) moves
      ((poll o jobId m₀.now).run e .free moves m₀) := runFrom_ends moves m₀ _
  generalize (poll o jobId m₀.now).run e .free moves m₀ = r at hends
  have hturns : ∀ {n effects m s turn},
      Reached (step o) e .free m₀ (start o jobId m₀.now) n effects m s →
      e.turnAt (step o) m s = .ok turn →
      Told e (scenario e o jobId m₀) (reportsOf (effects ++ turn.effects)) := by
    intro n effects m s turn hreached hturn
    obtain ⟨_, _, hplaced⟩ := placed_of_reached hcalm hreached
    exact (told_of_reached hcalm hreached).after_turn hplaced hturn
  cases hends with
  | unfinished hreached => exact told_of_reached hcalm hreached
  | settled hreached => exact told_of_reached hcalm hreached
  | lost hreached _ hturn => exact hturns hreached hturn
  | stuck hreached _ hturn => exact hturns hreached hturn

/-- Where a calm poll reports an answer of slot `k + 1`, its listener hears
that after `k` other events. -/
theorem hears_of_answered (hcalm : e.Calm m₀) (hlistens : e.listener.isSome)
    {a : Except Client.Error State} (ha : (scenario e o jobId m₀).Answered k f q t a)
    {next : Machine} (hstep : step o t false ((scenario e o jobId m₀).course k (k + 1) q,
      .answered (.ofNat f) (some a)) = .report event next) :
    Hears e o jobId m₀ k event t := by
  obtain ⟨n, effects, m, hreached, hfits⟩ := visits_answered hcalm ha
  obtain ⟨told, q', hplaced⟩ := placed_of_reached hcalm hreached
  obtain ⟨f', q', rfl, -, -, r', d', hasks', -⟩ := hplaced.stands.answered_inv
  -- the place among the requests tells the slot
  have hcount : m₀.tally.statuses + (q' + 1) = m₀.tally.statuses + (q + 1) :=
    congrArg Client.Tally.statuses (hplaced.fits.tally.symm.trans hfits.tally)
  obtain rfl : q' = q := by omega
  obtain ⟨r, d, hasks, -⟩ := ha
  obtain rfl : told = k := hasks'.askedAt_eq.2.symm.trans hasks.askedAt_eq.2
  have hnext := hreached.free_move (hfits.turn_report hstep) rfl
  have hrun : (poll o jobId m₀.now).run e .free (n + 1) m₀ = ⟨_, .unfinished, _⟩ :=
    runFrom_eq_iff.2 (.unfinished hnext)
  have hheard : e.heard event t = [.reported event t] := if_pos hlistens
  refine ⟨n + 1, ?_⟩
  rw [hrun, hheard, reportsOf_append, reportsOf_reported, ← hplaced.events hlistens]
  exact List.getElem?_concat_length

/-- **What the listener of a calm poll hears**: event `k` is that of slot
`k + 1`. -/
theorem hears_iff (hcalm : e.Calm m₀) :
    Hears e o jobId m₀ k event t ↔
      e.listener.isSome ∧ (scenario e o jobId m₀).Tells k event t := by
  constructor
  · rintro ⟨moves, hx⟩
    exact told_of_run hcalm moves k (event, t) hx
  · rintro ⟨hlistens, htells⟩
    cases htells with
    | told ha => exact hears_of_answered hcalm hlistens ha rfl
    | exhausted hlimited ha =>
      obtain ⟨r, d, hasks, -⟩ := id ha
      have hlast : ¬ o.Repeats o.maxRetries.toNat := not_or.2 ⟨hlimited, Nat.lt_irrefl _⟩
      exact hears_of_answered hcalm hlistens ha (retry_of_not_repeats hasks.allows hlast)

end Poll

end Research

end Amanuensis
