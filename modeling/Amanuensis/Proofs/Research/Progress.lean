import Amanuensis.Proofs.Research.Counts
import Amanuensis.Proofs.Research.Moves
import Amanuensis.Proofs.Task.Latency
import Amanuensis.Proofs.Task.Receipts
/-!
# What a poll reports

The events of a poll follow from what it is answered. `slots` reads the
answers slot by slot: a slot ends when it is told a state, when it has failed
too often, or when it is refused. `events` makes an event of each slot that
ends in one of the first two ways and of no other. At every place of a run
the events that are still `owed` are those of the answers that are still to
come, and so the reports of a poll are these events, each at the instant of
its answer (`poll_reports`), whoever cancels its signal and whatever it is
raced against.
-/


namespace Amanuensis

namespace Research

namespace Poll

open Amanuensis.Task

/-! ## From answers to events -/

/-- What a slot ends with. -/
inductive Ending where
  | told (s : State)
  /-- The connection has failed more often than it may. -/
  | exhausted
  | refused (error : Client.Error)

/-- The answers to requests for the state of a job, with their instants. -/
def statesOf (receipts : List Receipt) : List (Except Client.Error State × Instant) :=
  receipts.filterMap fun
    | ⟨.status _, answer, t⟩ => some (answer, t)
    | _ => none

@[simp] theorem statesOf_append (xs ys : List Receipt) :
    statesOf (xs ++ ys) = statesOf xs ++ statesOf ys := List.filterMap_append

/-- How the slots end that are answered so, with the instants of their last
answers. The first of them has failed some times before. -/
def slots (o : Options) :
    (failures : Nat) → List (Except Client.Error State × Instant) → List (Ending × Instant)
  | _, [] => []
  | _, (.ok s, t) :: answers => (.told s, t) :: slots o 0 answers
  | f, (.error (.network _), t) :: answers =>
    if o.Repeats f then slots o (f + 1) answers else (.exhausted, t) :: slots o 0 answers
  | _, (.error error, t) :: answers => (.refused error, t) :: slots o 0 answers

/-- Without a limit to its failures a slot ends the same however often it has
failed before. -/
theorem slots_of_unlimited {o : Options} (h : o.Unlimited) (f f' : Nat)
    (answers : List (Except Client.Error State × Instant)) :
    slots o f answers = slots o f' answers := by
  induction answers generalizing f f' with
  | nil => rfl
  | cons answer answers ih =>
    match answer with
    | (.ok s, t) => rfl
    | (.error (.network message), t) =>
      rw [slots, slots, if_pos (.inl h), if_pos (.inl h)]
      exact ih (f + 1) (f' + 1)
    | (.error .cancelled, t) => rfl
    | (.error (.api code message), t) => rfl
    | (.error (.invalidResponse message), t) => rfl
    | (.error (.invalidRequest message), t) => rfl

/-- The events of some slots of a poll that began at some instant, has
counted some events and was told some status last. -/
def events (t₀ : Instant) :
    (count : UInt32) → (last : Status) → List (Ending × Instant) → List (Event × Instant)
  | _, _, [] => []
  | k, _, (.told s, t) :: slots =>
    (⟨s.status, k + 1, .ofNanos (t - t₀), s.progress⟩, t) :: events t₀ (k + 1) s.status slots
  | k, last, (.exhausted, t) :: slots =>
    (⟨last, k + 1, .ofNanos (t - t₀), none⟩, t) :: events t₀ (k + 1) last slots
  | k, last, (.refused _, _) :: slots => events t₀ k last slots

section Events

variable (t₀ : Instant) (last : Status)

/-- Events are counted without gaps. -/
theorem events_counts (k : UInt32) (slots : List (Ending × Instant)) :
    (events t₀ k last slots).map (·.1.count) =
      (List.range' 1 (events t₀ k last slots).length).map fun n => k + .ofNat n := by
  induction slots generalizing k last with
  | nil => rfl
  | cons slot slots ih =>
    obtain ⟨ending, t⟩ := slot
    cases ending with
    | told s => rw [events, List.map_cons, ih, List.length_cons, counts_succ]
    | exhausted => rw [events, List.map_cons, ih, List.length_cons, counts_succ]
    | refused error => rw [events, ih]

/-- Each tells the time from the start of the poll to its instant. -/
theorem elapsed_of_mem_events {k : UInt32} {slots : List (Ending × Instant)} {x : Event × Instant}
    (h : x ∈ events t₀ k last slots) : x.1.elapsed = .ofNanos (x.2 - t₀) := by
  induction slots generalizing k last with
  | nil => cases h
  | cons slot slots ih =>
    obtain ⟨ending, t⟩ := slot
    cases ending with
    | told s =>
      obtain rfl | h := List.mem_cons.1 h
      · rfl
      · exact ih _ h
    | exhausted =>
      obtain rfl | h := List.mem_cons.1 h
      · rfl
      · exact ih _ h
    | refused error => exact ih _ h

end Events

/-! ## What is owed -/

/-- The events that are still to come where a poll stands, from the answers
that are still to come. A slot under way is counted when it asks. -/
def owed (o : Options) (now : Instant) :
    Machine → List (Except Client.Error State × Instant) → List (Event × Instant)
  | (c, .answered f (some a)), answers =>
    events c.startedAt (c.count - 1) c.last (slots o f.toNat ((a, now) :: answers))
  | (c, .answered f none), answers | (c, .retried f _), answers =>
    events c.startedAt (c.count - 1) c.last (slots o f.toNat answers)
  | (c, _), answers => events c.startedAt c.count c.last (slots o 0 answers)

/-- A slot has failed no more often than it may before an answer, and before a
repeated request. -/
def Allowed (o : Options) : Machine → Prop
  | (_, .answered f _) | (_, .retried f _) => o.Allows f.toNat
  | _ => True

variable {e : Setting Event} {o : Options} {race : Race} {m : Moment} {s next : Machine}
variable {turn : Turn Machine Event} {t : Instant}
variable {answers : List (Except Client.Error State × Instant)}

@[simp] theorem owed_answered {c : Course} {f : UInt32} {a : Except Client.Error State} :
    owed o t (c, .answered f (some a)) answers =
      events c.startedAt (c.count - 1) c.last (slots o f.toNat ((a, t) :: answers)) := rfl

/-- Without answers to come, one event is owed at most: that of an answer that
is there. -/
theorem owed_nil (o : Options) (now : Instant) (s : Machine) :
    owed o now s [] = [] ∨ ∃ x, owed o now s [] = [x] := by
  obtain ⟨c, phase⟩ := s
  cases phase with
  | begin | rested | retried | reported | exhausted => exact .inl rfl
  | answered f answer =>
    match answer with
    | none => exact .inl rfl
    | some (.ok state) => exact .inr ⟨_, rfl⟩
    | some (.error (.network message)) =>
      rw [owed_answered, slots]
      split
      · exact .inl rfl
      · exact .inr ⟨_, rfl⟩
    | some (.error .cancelled) => exact .inl rfl
    | some (.error (.api code message)) => exact .inl rfl
    | some (.error (.invalidResponse message)) => exact .inl rfl
    | some (.error (.invalidRequest message)) => exact .inl rfl

/-- Where a poll settles, no event is owed. -/
theorem owed_of_settle {now : Instant} {cancelled : Bool} {result : Except Failure Finding}
    (h : step o now cancelled s = .settle result) : owed o now s [] = [] := by
  obtain ⟨c, phase⟩ := s
  cases phase with
  | begin | rested | retried | reported | exhausted => rfl
  | answered f answer =>
    match answer with
    | none => rfl
    | some (.ok state) => cases h
    | some (.error (.network message)) =>
      change retry o now c (f + 1) message = _ at h
      unfold retry at h
      split at h <;> cases h
    | some (.error .cancelled) => rfl
    | some (.error (.api code message)) => rfl
    | some (.error (.invalidResponse message)) => rfl
    | some (.error (.invalidRequest message)) => rfl

/-- A failure that is counted is none of its slot's ending. -/
theorem slots_of_repeats {f : UInt32} {message : String} (h : o.Repeats f.toNat) :
    slots o f.toNat ((.error (.network message), t) :: answers) =
      slots o (f + 1).toNat answers := by
  rw [slots, if_pos h]
  by_cases hlimited : o.Unlimited
  · exact slots_of_unlimited hlimited _ _ answers
  · rw [h.toNat_succ hlimited]

/-- Nor is one where a poll does not get beyond its turn. -/
theorem owed_of_stopped (hallowed : Allowed o s) (hturn : e.turnAt (step o) m s = .ok turn)
    (hstopped : race.beats e.signalled turn ≠ none ∨ turn.resume = none) :
    owed o m.now s [] = [] ∧ reportsOf turn.effects = [] := by
  have hshape := step_shape o m.now (m.cancelled e.signalled) s
  rw [Setting.turnAt] at hturn
  generalize step o m.now (m.cancelled e.signalled) s = move at hshape hturn
  have hreport : ∀ event next, move ≠ .report event next := by
    rintro event next rfl
    obtain hlost | hresume := hstopped
    · exact hlost (Race.beats_report hturn)
    · rw [turn_report] at hturn
      cases hturn
      cases hresume
  refine ⟨?_, reportsOf_turn hreport hturn⟩
  cases hshape with
  | settle | overdue | exhausted => cases hturn
  | begin | next | ask | again => rfl
  | tell | giveUp => exact absurd rfl (hreport _ _)
  | back hmay =>
    rw [owed_answered, slots_of_repeats ((Options.not_lt_succ_iff hallowed).1 hmay)]
    rfl

/-- A request is over with the answer that it has received, if any. -/
theorem owed_of_ask {c : Course} {f : UInt32}
    (hturn : e.turn m (askState c f) = .ok turn) (hresume : turn.resume = some (t, next)) :
    (o.Allows f.toNat → Allowed o next) ∧
      ∀ answers, owed o t next answers = events c.startedAt (c.count - 1) c.last
        (slots o f.toNat (statesOf (e.receipt m (askState c f)).toList ++ answers)) := by
  obtain ⟨rfl, hreceipt⟩ | ⟨a, rfl, hreceipt⟩ := turn_ask_receipt hturn hresume
  · refine ⟨id, fun answers => ?_⟩
    rw [askState, hreceipt]
    rfl
  · refine ⟨id, fun answers => ?_⟩
    rw [askState, hreceipt]
    rfl

/-- **A turn pays what it reports**: the events that are owed before it are its
own and those that are owed after it. -/
theorem owed_of_turn (hlistens : e.listener.isSome) (hallowed : Allowed o s)
    (hturn : e.turnAt (step o) m s = .ok turn) (hresume : turn.resume = some (t, next)) :
    Allowed o next ∧ ∀ answers,
      owed o m.now s (statesOf (e.receipt m (step o m.now (m.cancelled e.signalled) s)).toList ++
        answers) = reportsOf turn.effects ++ owed o t next answers := by
  have hshape := step_shape o m.now (m.cancelled e.signalled) s
  rw [Setting.turnAt] at hturn
  generalize step o m.now (m.cancelled e.signalled) s = move at hshape hturn ⊢
  have hheard : ∀ event, e.heard event m.now = [.reported event m.now] := fun event =>
    if_pos hlistens
  cases hshape with
  | settle | overdue | exhausted => cases hturn
  | begin | next =>
    obtain ⟨heffects, how, rfl, -⟩ := turn_wait_resumes hturn hresume
    rw [heffects]
    exact ⟨trivial, fun answers => rfl⟩
  | ask =>
    obtain ⟨hnext, howed⟩ := owed_of_ask (o := o) hturn hresume
    rw [reportsOf_turn (by simp [askState]) hturn]
    refine ⟨hnext o.allows_zero, fun answers => ((howed answers).trans ?_).symm⟩
    rw [UInt32.add_sub_cancel]
    rfl
  | again =>
    obtain ⟨hnext, howed⟩ := owed_of_ask (o := o) hturn hresume
    rw [reportsOf_turn (by simp [askState]) hturn]
    exact ⟨hnext hallowed, fun answers => (howed answers).symm⟩
  | @tell c f state =>
    rw [turn_report, hheard] at hturn
    cases hturn
    cases hresume
    refine ⟨trivial, fun answers => ?_⟩
    change events c.startedAt (c.count - 1) c.last
      (slots o f.toNat ((.ok state, m.now) :: answers)) = _
    rw [slots, events, UInt32.sub_add_cancel]
    rfl
  | @back c f message hmay =>
    obtain ⟨heffects, how, rfl, -⟩ := turn_wait_resumes hturn hresume
    rw [heffects]
    have hrepeats := (Options.not_lt_succ_iff hallowed).1 hmay
    refine ⟨hrepeats.allows_succ, fun answers => ?_⟩
    change events c.startedAt (c.count - 1) c.last
      (slots o f.toNat ((.error (.network message), m.now) :: answers)) = _
    rw [slots_of_repeats hrepeats]
    rfl
  | @giveUp c f message hmay =>
    rw [turn_report, hheard] at hturn
    cases hturn
    cases hresume
    refine ⟨trivial, fun answers => ?_⟩
    have hlast : ¬ o.Repeats f.toNat := fun hrepeats =>
      (Options.not_lt_succ_iff hallowed).2 hrepeats hmay
    change events c.startedAt (c.count - 1) c.last
      (slots o f.toNat ((.error (.network message), m.now) :: answers)) = _
    rw [slots, if_neg hlast, events, UInt32.sub_add_cancel]
    rfl

/-! ## What is reported -/

/-- **A run reports the events that were owed when it began**, in their order,
but the last of them if its allowance of moves ends before that. -/
theorem reports_owed (hlistens : e.listener.isSome) (moves : Nat) (m : Moment)
    (hallowed : Allowed o s) :
    let run := runFrom (step o) e race moves m s
    let due := owed o m.now s (statesOf (received (step o) e race moves m s))
    reportsOf run.effects = due ∨
      run.outcome = .unfinished ∧ ∃ x, due = reportsOf run.effects ++ [x] := by
  induction moves generalizing m s with
  | zero =>
    obtain hnone | ⟨x, hone⟩ := owed_nil o m.now s
    · exact .inl hnone.symm
    · exact .inr ⟨rfl, x, hone⟩
  | succ moves ih =>
    cases hturn : e.turnAt (step o) m s with
    | error result =>
      rw [runFrom_of_error moves hturn, received_of_error _ hturn]
      exact .inl (owed_of_settle (turn_eq_error hturn)).symm
    | ok turn =>
      cases hbeats : race.beats e.signalled turn with
      | some w =>
        obtain ⟨howed, hreports⟩ :=
          owed_of_stopped hallowed hturn (.inl fun hnone => by cases hbeats.symm.trans hnone)
        rw [runFrom_of_beats moves hturn hbeats, received_of_beats _ hturn hbeats]
        exact .inl (hreports.trans howed.symm)
      | none =>
        cases hresume : turn.resume with
        | none =>
          have hstopped : race.beats e.signalled turn ≠ none ∨ turn.resume = none := .inr hresume
          obtain ⟨howed, hreports⟩ := owed_of_stopped hallowed hturn hstopped
          rw [runFrom_of_stuck moves hturn hbeats hresume,
            received_of_stuck _ hturn hbeats hresume]
          exact .inl (hreports.trans howed.symm)
        | some w =>
          -- what is owed after the turn is reported by the rest of the run
          obtain ⟨hnext, howed⟩ := owed_of_turn hlistens hallowed hturn hresume
          have hrest := ih (turn.moment.goto w.1) hnext
          rw [runFrom_of_resume moves hturn hbeats hresume,
            received_of_resume moves hturn hbeats hresume, statesOf_append, howed]
          generalize runFrom (step o) e race moves (turn.moment.goto w.1) w.2 = rest at hrest ⊢
          have hreports : reportsOf (rest.after turn.effects).effects =
              reportsOf turn.effects ++ reportsOf rest.effects := reportsOf_append _ _
          obtain hpaid | ⟨hunfinished, x, hlast⟩ := hrest
          · exact .inl (hreports.trans (congrArg (reportsOf turn.effects ++ ·) hpaid))
          · refine .inr ⟨hunfinished, x, ?_⟩
            rw [hreports, List.append_assoc]
            exact congrArg (reportsOf turn.effects ++ ·) hlast

/-- How the reports of a poll that began at some instant follow from what it
was answered. -/
structure Reporting (o : Options) (t₀ : Instant)
    (answers : List (Except Client.Error State × Instant))
    (run : Record Event (Except Failure Finding)) : Prop where
  /-- There is one event for each slot that is told a state or has failed too
  often, at the instant of its last answer, and no other. If the run has not
  come to its end, the last of them may still be missing. -/
  complete : reportsOf run.effects = events t₀ 0 .pending (slots o 0 answers) ∨
    run.outcome = .unfinished ∧
      ∃ x, events t₀ 0 .pending (slots o 0 answers) = reportsOf run.effects ++ [x]
  /-- They are counted from one without gaps, as far as a count goes before it
  starts again. -/
  counted : (reportsOf run.effects).map (·.1.count) =
    (List.range' 1 (reportsOf run.effects).length).map UInt32.ofNat
  /-- Each tells the time from the start to its instant, -/
  timed : ∀ x ∈ reportsOf run.effects, x.1.elapsed = .ofNanos (x.2 - t₀)
  /-- and none tells less than the one before it. -/
  ordered : (reportsOf run.effects).Pairwise fun x y => x.1.elapsed.nanos ≤ y.1.elapsed.nanos

/-- Reports that are complete and in the order of their instants are counted
and timed like the events that they are. -/
theorem Reporting.of_complete {t₀ : Instant} {run : Record Event (Except Failure Finding)}
    (hcomplete : reportsOf run.effects = events t₀ 0 .pending (slots o 0 answers) ∨
      run.outcome = .unfinished ∧
        ∃ x, events t₀ 0 .pending (slots o 0 answers) = reportsOf run.effects ++ [x])
    (hsorted : (reportsOf run.effects).Pairwise fun x y => x.2 ≤ y.2) :
    Reporting o t₀ answers run := by
  obtain ⟨missing, hevents⟩ : ∃ missing,
      events t₀ 0 .pending (slots o 0 answers) = reportsOf run.effects ++ missing := by
    obtain hall | ⟨-, x, hlast⟩ := hcomplete
    · exact ⟨[], by rw [hall, List.append_nil]⟩
    · exact ⟨[x], hlast⟩
  have htimed : ∀ x ∈ reportsOf run.effects, x.1.elapsed = .ofNanos (x.2 - t₀) := by
    intro x hx
    have hmem : x ∈ events t₀ 0 .pending (slots o 0 answers) := by
      rw [hevents]
      exact List.mem_append_left _ hx
    exact elapsed_of_mem_events t₀ .pending hmem
  refine ⟨hcomplete, ?_, htimed, ?_⟩
  · have hcounts := events_counts t₀ .pending 0 (slots o 0 answers)
    rw [hevents, List.map_append, List.length_append, ← List.range'_append_1,
      List.map_append] at hcounts
    have hcounts := (List.append_inj hcounts (by simp)).1
    simpa only [UInt32.zero_add] using hcounts
  · refine hsorted.imp_of_mem fun hx hy hle => ?_
    rw [htimed _ hx, htimed _ hy, Duration.ofNanos_nanos, Duration.ofNanos_nanos]
    have hsub := Nat.sub_le_sub_right hle t₀
    exact Nat.le_min.2 ⟨Nat.le_trans (Nat.min_le_left _ _) hsub, Nat.min_le_right _ _⟩

/-- **A poll reports the events of its slots**, to whoever listens to it,
whoever cancels its signal and whatever it is raced against. -/
theorem poll_reports (hlistens : e.listener.isSome) (o : Options) (jobId : String) (race : Race)
    (moves : Nat) (m : Moment) :
    Reporting o m.now (statesOf (received (step o) e race moves m (start o jobId m.now)))
      ((poll o jobId m.now).run e race moves m) := by
  have hallowed : Allowed o (start o jobId m.now) := trivial
  exact .of_complete (reports_owed hlistens moves m hallowed) (runFrom_reports_sorted moves m _)

end Poll

end Research

end Amanuensis
