import Amanuensis.Proofs.Research.Pace
import Amanuensis.Proofs.Research.Keeping
import Amanuensis.Proofs.Task.Placement
import Amanuensis.Proofs.Text.Trim
/-!
# Studies from end to end

A study is an order and a poll, one after the other. What it comes to
follows from what the order is answered with: an error or a report is the
end of it, and from the instant at which a job has been queued on the study
is the poll of that job (`study_run`). Before the order, a blank query is
refused and a signal that is cancelled is respected; after it, the poll looks
at the signal again.
-/


namespace Amanuensis

namespace Task

variable {σ ε ρ α : Type} {step : Instant → Bool → σ → Move σ ε ρ} {e : Setting ε} {race : Race}

/-- Runs are the same from two states with the same next move. -/
theorem runFrom_congr {m : Moment} {s s' : σ}
    (h : step m.now (m.cancelled e.signalled) s = step m.now (m.cancelled e.signalled) s')
    (moves : Nat) : runFrom step e race moves m s = runFrom step e race moves m s' := by
  cases moves with
  | zero => rfl
  | succ moves => simp only [runFrom, h]

/-- A machine that settles at once does nothing. -/
theorem runFrom_effects_of_settle {m : Moment} {s : σ}
    (h : ∀ cancelled, ∃ r, step m.now cancelled s = .settle r) (moves : Nat) :
    (runFrom step e race moves m s).effects = [] := by
  cases moves with
  | zero => rfl
  | succ moves =>
    obtain ⟨r, hr⟩ := h (m.cancelled e.signalled)
    rw [runFrom_of_error moves (by rw [Setting.turnAt, hr]; rfl)]

/-- A request that does not heed the signal ends with its answer. -/
theorem Moment.reception_unheeding (m : Moment) (signalled : Bool) (r : Client.Reply α) :
    m.reception signalled false r = (m.answer signalled r).map fun w => (w.1, some w.2) := by
  unfold Moment.reception
  cases m.answer signalled r with
  | none => rfl
  | some w =>
    simp only [Option.map_some]
    split <;> rfl

end Task

namespace Research

namespace Study

open Amanuensis.Task

/-- There is nothing but white space in the query of a plan. -/
def Plan.Blank (p : Plan) : Prop := ∀ c ∈ p.query.toList, Text.isBlank c = true

variable {e : Setting Poll.Event} {p : Plan} {m : Moment}

theorem question_isEmpty_iff : p.question.isEmpty = true ↔ p.Blank := by
  rw [Plan.Blank, ← Text.trim_eq_nil_iff]
  simp [Plan.question]

/-! ## The order -/

/-- When and with what the order of a study is answered, if it is. -/
def answerOf (e : Setting Poll.Event) (p : Plan) (m : Moment) :
    Option (Instant × Except Client.Error Creation) :=
  (e.sent m (.create p.order)).answer e.signalled (e.client.reply m.tally (.create p.order))

/-- A blank query is refused. -/
theorem turn_blank (hblank : p.Blank) :
    e.turnAt (step p) m .begin = .error (.error (.validation "Query is required")) := by
  rw [Setting.turnAt, step, if_pos (question_isEmpty_iff.2 hblank)]
  rfl

/-- A signal that is cancelled is respected. -/
theorem turn_cancelled (hquery : ¬ p.Blank) (hcancelled : m.cancelled e.signalled = true) :
    e.turnAt (step p) m .begin = .error (.error .pollingCancelled) := by
  rw [Setting.turnAt, step, if_neg (mt question_isEmpty_iff.1 hquery), if_pos hcancelled]
  rfl

/-- The turn in which the order is sent. -/
theorem turn_order (hquery : ¬ p.Blank)
    (hcancelled : m.cancelled e.signalled = false) :
    e.turnAt (step p) m .begin = .ok ⟨[.asked (.create p.order) m.now], e.sent m (.create p.order),
      (answerOf e p m).map fun w => (w.1, .ordered m.now (some w.2))⟩ := by
  have hstep : step p m.now (m.cancelled e.signalled) .begin =
      .ask (.create p.order) false fun answer => .ordered m.now answer := by
    simp only [step, if_neg (mt question_isEmpty_iff.1 hquery), hcancelled, Bool.false_eq_true,
      if_false]
  rw [Setting.turnAt, hstep, turn_ask (by rw [Bool.false_and]), Moment.reception_unheeding,
    Option.map_map]
  rfl

variable {moves : Nat} {race : Race}

/-- A study waits for the answer to its order. -/
theorem run_of_unanswered (hquery : ¬ p.Blank)
    (hcancelled : m.cancelled e.signalled = false) (hanswer : answerOf e p m = none)
    (moves : Nat) :
    (study p).run e .free (moves + 1) m =
      ⟨[.asked (.create p.order) m.now], .stuck, e.sent m (.create p.order)⟩ := by
  refine runFrom_of_stuck moves (turn_order hquery hcancelled) (Race.beats_free _ _) ?_
  rw [hanswer]
  rfl

/-- It goes on when the order is answered. -/
theorem run_of_answer {t : Instant} {a : Except Client.Error Creation}
    (hquery : ¬ p.Blank)
    (hcancelled : m.cancelled e.signalled = false) (hanswer : answerOf e p m = some (t, a))
    (moves : Nat) :
    (study p).run e .free (moves + 1) m =
      (runFrom (step p) e .free moves ((e.sent m (.create p.order)).goto t)
        (.ordered m.now (some a))).after [.asked (.create p.order) m.now] := by
  refine runFrom_of_resume moves (turn_order hquery hcancelled) (Race.beats_free _ _) ?_
  rw [hanswer]
  rfl

/-- From the instant at which a job has been queued on a study is its poll. -/
theorem run_of_queued {jobId : String} {status : Option Status} {startedAt : Instant} :
    runFrom (step p) e race moves m (.ordered startedAt (some (.ok (.queued jobId status)))) =
      (poll p.options jobId m.now).run e race moves m := by
  have hfirst : step p m.now (m.cancelled e.signalled)
      (.ordered startedAt (some (.ok (.queued jobId status)))) =
      step p m.now (m.cancelled e.signalled) (.polling (Poll.start p.options jobId m.now)) := rfl
  have hplaced : ∀ now cancelled poll, step p now cancelled (.polling poll) =
      (Poll.step p.options now cancelled poll).map .polling id id := fun _ _ _ => rfl
  rw [runFrom_congr hfirst]
  exact (runFrom_placed hplaced moves m _).trans (by rw [Setting.inside_id, Record.map_id]; rfl)

/-- Any other answer to its order is the end of a study. -/
theorem settles_of_ordered {startedAt : Instant} {a : Except Client.Error Creation}
    (h : ¬ ∃ jobId status, a = .ok (.queued jobId status)) (now : Instant) (cancelled : Bool) :
    ∃ result, step p now cancelled (.ordered startedAt (some a)) = .settle result := by
  match a with
  | .error error =>
    by_cases herror : error = .cancelled
    · subst herror
      exact ⟨_, rfl⟩
    · exact ⟨_, step_ordered_error herror⟩
  | .ok (.completed report) => exact ⟨_, rfl⟩
  | .ok (.queued jobId status) => exact absurd ⟨jobId, status, rfl⟩ h

/-- Once its order is answered, a study is a poll or does nothing more. -/
theorem ordered_effects (e : Setting Poll.Event) (p : Plan) (race : Race) (startedAt : Instant)
    (a : Except Client.Error Creation) (moves : Nat) (m : Moment) :
    (runFrom (step p) e race moves m (.ordered startedAt (some a))).effects = [] ∨
    ∃ jobId status, a = .ok (.queued jobId status) ∧
      runFrom (step p) e race moves m (.ordered startedAt (some a)) =
        (poll p.options jobId m.now).run e race moves m := by
  by_cases hqueued : ∃ jobId status, a = .ok (.queued jobId status)
  · obtain ⟨jobId, status, rfl⟩ := hqueued
    exact .inr ⟨jobId, status, rfl, run_of_queued⟩
  · exact .inl (runFrom_effects_of_settle (settles_of_ordered hqueued m.now) moves)

/-- **What a study does**, whatever it is raced against: nothing, or its order
alone, or its order and then what the poll does of the job that has been
queued. -/
theorem study_effects (e : Setting Poll.Event) (p : Plan) (race : Race) (moves : Nat)
    (m : Moment) :
    ((study p).run e race moves m).effects = [] ∨
    ((study p).run e race moves m).effects = [.asked (.create p.order) m.now] ∨
    ∃ t jobId status left, answerOf e p m = some (t, .ok (.queued jobId status)) ∧
      (study p).run e race moves m = ((poll p.options jobId t).run e race left
        ((e.sent m (.create p.order)).goto t)).after [.asked (.create p.order) m.now] := by
  cases moves with
  | zero => exact .inl rfl
  | succ moves =>
    by_cases hblank : p.Blank
    · exact .inl (congrArg Record.effects (runFrom_of_error moves (turn_blank hblank)))
    cases hcancelled : m.cancelled e.signalled with
    | true =>
      exact .inl (congrArg Record.effects
        (runFrom_of_error moves (turn_cancelled hblank hcancelled)))
    | false =>
      have hturn := turn_order hblank hcancelled
      cases hbeats : race.beats e.signalled _ with
      | some w =>
        exact .inr (.inl (congrArg Record.effects (runFrom_of_beats moves hturn hbeats)))
      | none =>
        cases hanswer : answerOf e p m with
        | none =>
          have hresume : (answerOf e p m).map (fun w => (w.1, Machine.ordered m.now (some w.2))) =
              none := by rw [hanswer]; rfl
          exact .inr (.inl (congrArg Record.effects
            (runFrom_of_stuck moves hturn hbeats hresume)))
        | some w =>
          obtain ⟨t, a⟩ := w
          have hresume : (answerOf e p m).map (fun w => (w.1, Machine.ordered m.now (some w.2))) =
              some (t, .ordered m.now (some a)) := by rw [hanswer]; rfl
          have hrun : (study p).run e race (moves + 1) m =
              (runFrom (step p) e race moves ((e.sent m (.create p.order)).goto t)
                (.ordered m.now (some a))).after [.asked (.create p.order) m.now] :=
            runFrom_of_resume moves hturn hbeats hresume
          obtain hnone | ⟨jobId, status, rfl, hpoll⟩ :=
            ordered_effects e p race m.now a moves ((e.sent m (.create p.order)).goto t)
          · rw [hrun, Record.after, hnone]
            exact .inr (.inl rfl)
          · rw [hpoll] at hrun
            exact .inr (.inr ⟨t, jobId, status, moves, rfl, hrun⟩)

/-! ## Leaving the signal alone, and coming to an end -/

/-- A study leaves the caller's signal alone. -/
theorem step_neverCancels (p : Plan) : NeverCancels (step p) := by
  intro now cancelled s
  have hpolled : ∀ poll next, polled (Poll.step p.options now cancelled poll) ≠ .cancel next :=
    fun poll => Move.map_ne_cancel ((Poll.step_obedient p.options).neverCancels now cancelled poll)
  cases s with
  | begin =>
    intro next
    simp only [step]
    split
    · simp
    · split <;> simp
  | ordered startedAt answer =>
    cases answer with
    | none => simp [step]
    | some result =>
      cases result with
      | error error =>
        by_cases herror : error = .cancelled
        · simp [herror, step]
        · simp [step_ordered_error herror]
      | ok creation =>
        cases creation with
        | queued jobId status => exact hpolled _
        | completed report => simp [step]
  | polling poll => exact hpolled poll

/-- Once it is ordered it is over in the end or gets to any instant, if the
waits of its poll last. -/
theorem ordered_passes (hlasting : p.options.Lasting) (b : Instant) (m : Moment)
    (startedAt : Instant) (answer : Option (Except Client.Error Creation)) :
    Passes (step p) e .free b m (.ordered startedAt answer) := by
  cases answer with
  | none => exact (finishes_of_settle fun _ => ⟨_, rfl⟩).passes b
  | some a =>
    by_cases hqueued : ∃ jobId status, a = .ok (.queued jobId status)
    · obtain ⟨jobId, status, rfl⟩ := hqueued
      obtain ⟨moves, hpasses⟩ := Poll.poll_passes (e := e) hlasting jobId m b
      exact ⟨moves, by rwa [run_of_queued]⟩
    · exact (finishes_of_settle (settles_of_ordered hqueued m.now)).passes b

/-- **A study is over in the end or gets to any instant**, if the waits of its
poll last. -/
theorem study_passes (hlasting : p.options.Lasting) (m : Moment) (b : Instant) :
    Passes (step p) e .free b m .begin := by
  refine passes_of_keeps (fun s => ∃ t answer, s = .ordered t answer) (fun cancelled => ?_) ?_
  · simp only [step]
    split
    · trivial
    · split
      · trivial
      · exact ⟨trivial, fun answer => ⟨_, answer, rfl⟩⟩
  · rintro m _ ⟨t, answer, rfl⟩
    exact ordered_passes hlasting b m t answer

/-! ## Whole studies -/

/-- What a study comes to that sends its order, from what the order is
answered with. -/
structure AfterOrder (e : Setting Poll.Event) (p : Plan) (m : Moment) : Prop where
  /-- The order is the first request, and the only one of its kind. -/
  once : ∀ moves, ∃ rest, ((study p).run e .free (moves + 1) m).effects =
      .asked (.create p.order) m.now :: rest ∧
    ∀ q t, .asked q t ∈ rest → ∃ jobId, q = .status jobId
  /-- Without an answer the study waits for it. -/
  unanswered : answerOf e p m = none → ∀ moves, (study p).run e .free (moves + 1) m =
    ⟨[.asked (.create p.order) m.now], .stuck, e.sent m (.create p.order)⟩
  /-- An order that was cancelled is a poll that was cancelled. -/
  cancelled : ∀ t, answerOf e p m = some (t, .error .cancelled) → ∀ moves,
    (study p).run e .free (moves + 2) m = ⟨[.asked (.create p.order) m.now],
      .settled (.error .pollingCancelled), (e.sent m (.create p.order)).goto t⟩
  /-- Any other error is a failure of its own; one that the service reports
  keeps its code and its message. -/
  failed : ∀ t error, answerOf e p m = some (t, .error error) → error ≠ .cancelled →
    (∀ code message, error = .api code message →
      error.toFailure.code = code ∧ error.toFailure.message = message) ∧
    ∀ moves, (study p).run e .free (moves + 2) m = ⟨[.asked (.create p.order) m.now],
      .settled (.error error.toFailure), (e.sent m (.create p.order)).goto t⟩
  /-- A report that is there at once is found without a poll. -/
  completed : ∀ t report, answerOf e p m = some (t, .ok (.completed report)) → ∀ moves,
    (study p).run e .free (moves + 2) m = ⟨[.asked (.create p.order) m.now],
      .settled (.ok ⟨report, 0, .ofNanos (t - m.now)⟩), (e.sent m (.create p.order)).goto t⟩
  /-- A job that is queued is polled from that instant on. -/
  queued : ∀ t jobId status, answerOf e p m = some (t, .ok (.queued jobId status)) → ∀ moves,
    (study p).run e .free (moves + 1) m = ((poll p.options jobId t).run e .free moves
      ((e.sent m (.create p.order)).goto t)).after [.asked (.create p.order) m.now]
  /-- But not even once if the signal has been cancelled by then. -/
  overtaken : ∀ t jobId status, answerOf e p m = some (t, .ok (.queued jobId status)) →
    ((e.sent m (.create p.order)).goto t).cancelled e.signalled = true → ∀ moves,
    (study p).run e .free (moves + 2) m = ⟨[.asked (.create p.order) m.now],
      .settled (.error .pollingCancelled), (e.sent m (.create p.order)).goto t⟩

/-- An order that is answered so that the study is over. -/
theorem run_of_settle {t : Instant} {a : Except Client.Error Creation}
    {result : Except Failure Poll.Finding}
    (hquery : ¬ p.Blank)
    (hcancelled : m.cancelled e.signalled = false) (hanswer : answerOf e p m = some (t, a))
    (hsettle : ∀ cancelled, step p t cancelled (.ordered m.now (some a)) = .settle result)
    (moves : Nat) :
    (study p).run e .free (moves + 2) m = ⟨[.asked (.create p.order) m.now], .settled result,
      (e.sent m (.create p.order)).goto t⟩ := by
  have hturn : e.turnAt (step p) ((e.sent m (.create p.order)).goto t)
      (.ordered m.now (some a)) = .error result := by
    rw [Setting.turnAt, Moment.goto_now, hsettle]
    rfl
  rw [run_of_answer hquery hcancelled hanswer, runFrom_of_error moves hturn]
  rfl

theorem afterOrder (hquery : ¬ p.Blank)
    (hcancelled : m.cancelled e.signalled = false) : AfterOrder e p m where
  once moves := by
    cases hanswer : answerOf e p m with
    | none =>
      rw [run_of_unanswered hquery hcancelled hanswer]
      exact ⟨[], rfl, nofun⟩
    | some w =>
      have hordered : Ordered (.ordered m.now (some w.2)) := trivial
      rw [run_of_answer hquery hcancelled hanswer]
      exact ⟨_, rfl, ((ordered_keeping p).run hordered moves).1⟩
  unanswered := run_of_unanswered hquery hcancelled
  cancelled t hanswer := run_of_settle hquery hcancelled hanswer fun _ => rfl
  failed t error hanswer herror := by
    refine ⟨?_, run_of_settle hquery hcancelled hanswer fun _ => step_ordered_error herror⟩
    rintro code message rfl
    exact ⟨rfl, rfl⟩
  completed t report hanswer := run_of_settle hquery hcancelled hanswer fun _ => rfl
  queued t jobId status hanswer moves := by
    rw [run_of_answer hquery hcancelled hanswer, run_of_queued]
    rfl
  overtaken t jobId status hanswer hovertaken moves := by
    have hturn : e.turnAt (Poll.step p.options) ((e.sent m (.create p.order)).goto t)
        (Poll.start p.options jobId t) = .error (.error .pollingCancelled) := by
      rw [Setting.turnAt, hovertaken]
      rfl
    rw [run_of_answer hquery hcancelled hanswer, run_of_queued]
    exact congrArg (Record.after _) (runFrom_of_error moves hturn)

/-- **A study from end to end**, whoever listens, whatever the service does
and whoever cancels the signal. A blank query is refused, and otherwise a
signal that is cancelled is respected, before anything is asked. In every
other case the job is ordered, once, with the query trimmed, and the rest
follows from the answer. -/
theorem study_run (e : Setting Poll.Event) (p : Plan) (m : Moment) :
    (p.Blank → ∀ moves, (study p).run e .free (moves + 1) m =
      ⟨[], .settled (.error (.validation "Query is required")), m⟩) ∧
    (¬ p.Blank → m.cancelled e.signalled = true → ∀ moves,
      (study p).run e .free (moves + 1) m = ⟨[], .settled (.error .pollingCancelled), m⟩) ∧
    (¬ p.Blank → m.cancelled e.signalled = false →
      p.order = ⟨String.ofList (Text.trim p.query.toList), p.depth, p.aids⟩ ∧
      AfterOrder e p m) := by
  refine ⟨fun hblank moves => ?_, fun hquery hcancelled moves => ?_, fun hquery hcancelled =>
    ⟨rfl, afterOrder hquery hcancelled⟩⟩
  · exact runFrom_of_error moves (turn_blank hblank)
  · exact runFrom_of_error moves (turn_cancelled hquery hcancelled)

/-! ## A service to try it on -/

/-- A service that queues a job after a second, while the caller's signal is
cancelled. -/
def slowDesk : Client :=
  .ofSequences (fun _ => ⟨true, some 1000000000, false, some (.ok (.queued "job-1" none))⟩)
    (fun _ => .now (.error .cancelled)) fun _ => .now (.error .cancelled)

/-- A caller who asks something of it. -/
def asker (query : String) : Plan := ⟨query, some .quick, [], .standard⟩

/-- A question is ordered as it is without white space around it, and is not
polled once it has been cancelled; a blank one is not ordered at all. -/
theorem slowDesk_study :
    (study (asker " \t")).run ⟨slowDesk, true, none⟩ .free 1 (.start none) =
      ⟨[], .settled (.error (.validation "Query is required")), .start none⟩ ∧
    ∀ moves,
      ((study (asker " why? ")).run ⟨slowDesk, true, none⟩ .free (moves + 2)
        (.start none)).effects = [.asked (.create ⟨"why?", some .quick, []⟩) 0] ∧
      ((study (asker " why? ")).run ⟨slowDesk, true, none⟩ .free (moves + 2)
        (.start none)).outcome = .settled (.error .pollingCancelled) := by
  have hblank : (asker " \t").Blank := List.all_eq_true.1 (by decide)
  have hquery : ¬ (asker " why? ").Blank := fun h => absurd (List.all_eq_true.2 h) (by decide)
  refine ⟨(study_run _ (asker " \t") (.start none)).1 hblank 0, fun moves => ?_⟩
  obtain ⟨-, hafter⟩ :=
    (study_run ⟨slowDesk, true, none⟩ (asker " why? ") (.start none)).2.2 hquery rfl
  rw [hafter.overtaken 1000000000 "job-1" none (by cbv) (by cbv) moves]
  exact ⟨rfl, rfl⟩

end Study

end Research

end Amanuensis
