import Amanuensis.Proofs.Failure
import Amanuensis.Proofs.Research.Moves
import Amanuensis.Proofs.Task.Invariant
import Amanuensis.Research.Study
/-!
# What polls and studies keep to

A poll asks for the state of its own job and for nothing else, a study
orders one job besides, and what either fails with is a regular failure.
That is so whatever the service answers, whoever cancels the signal and
whatever the run is raced against (`poll_keeping`, `study_keeping`).
-/


namespace Amanuensis

namespace Research

open Amanuensis.Task

/-- A result that is no failure or a regular one. -/
def RegularResult {α : Type} (result : Except Failure α) : Prop :=
  ∀ f, result = .error f → f.Regular

theorem RegularResult.ok {α : Type} (a : α) : RegularResult (.ok a) := nofun

theorem RegularResult.error {α : Type} {f : Failure} (h : f.Regular) :
    RegularResult (.error f : Except Failure α) := by
  rintro f' ⟨⟩
  exact h

/-! ## Polls -/

namespace Poll

/-- The states of the poll of a job. What it is going to give up with is a
regular failure. -/
structure Sound (jobId : String) (s : Machine) : Prop where
  job : s.1.jobId = jobId
  exhausted : ∀ f, s.2 = .exhausted f → f.Regular

variable {o : Options} {now : Instant} {cancelled : Bool} {c : Course} {jobId : String}
variable {result : Except Failure Finding}

theorem start_sound (o : Options) (jobId : String) (now : Instant) :
    Sound jobId (start o jobId now) := ⟨rfl, nofun⟩

theorem exhaustion_regular (jobId : String) (attempts : UInt32) (message : String) :
    (exhaustion jobId attempts message).Regular :=
  Failure.network_regular _

theorem jobFailure_regular (e : Option RemoteError) : (jobFailure e).Regular := by
  cases e <;> exact Failure.remote_regular _ _

theorem conclude_regular {s : State} (h : conclude c now s = some result) :
    RegularResult result := by
  unfold conclude at h
  split at h
  · split at h <;> cases h
    · exact .ok _
    · exact .error (Failure.remote_regular _ _)
  · cases h
    exact .error (jobFailure_regular _)
  · cases h

theorem beginSlot_regular (h : beginSlot o now cancelled c = .settle result) :
    RegularResult result := by
  unfold beginSlot at h
  split at h
  · cases h
    exact .error Failure.pollingCancelled_regular
  · split at h <;> cases h
    exact .error (Failure.pollingTimeout_regular _ _)

/-- Of a request that failed a poll settles with the error, unless it asks
again. -/
theorem answered_error_regular {failures : UInt32} {error : Client.Error}
    (h : step o now cancelled (c, .answered failures (some (.error error))) = .settle result) :
    RegularResult result := by
  cases error with
  | network message =>
    change retry o now c (failures + 1) message = _ at h
    unfold retry at h
    split at h <;> cases h
  | cancelled =>
    cases h
    exact .error Failure.pollingCancelled_regular
  | api | invalidResponse | invalidRequest =>
    cases h
    exact .error (Failure.toFailure_regular _)

/-- What a poll settles with is regular. -/
theorem settle_regular {s : Machine} (hs : Sound jobId s)
    (h : step o now cancelled s = .settle result) : RegularResult result := by
  obtain ⟨c, phase⟩ := s
  cases phase with
  | begin => exact beginSlot_regular h
  | rested how =>
    cases how <;> cases h
    exact .error Failure.pollingCancelled_regular
  | retried failures how =>
    cases how <;> cases h
    exact .error Failure.pollingCancelled_regular
  | reported state =>
    simp only [step] at h
    split at h
    · cases h
      exact conclude_regular ‹_›
    · exact beginSlot_regular h
  | exhausted failure =>
    cases h
    exact .error (hs.exhausted _ rfl)
  | answered failures answer =>
    cases answer with
    | none =>
      cases h
      exact .error Failure.pollingCancelled_regular
    | some answer =>
      cases answer with
      | ok state => cases h
      | error error => exact answered_error_regular h

/-- **A poll keeps to its job.** -/
theorem poll_keeping (o : Options) (jobId : String) :
    Keeping (step o) (Sound jobId) (· = .status jobId) RegularResult := by
  intro now cancelled s hs
  have hshape := step_shape o now cancelled s
  have hsettle : ∀ result, step o now cancelled s = .settle result → RegularResult result :=
    fun result => settle_regular hs
  generalize step o now cancelled s = move at hshape hsettle ⊢
  cases hshape with
  | settle | overdue | exhausted => exact hsettle _ rfl
  | begin | next | back => exact fun _ => ⟨hs.job, nofun⟩
  | ask | again => exact ⟨congrArg Client.Request.status hs.job, fun _ => ⟨hs.job, nofun⟩⟩
  | tell => exact ⟨hs.job, nofun⟩
  | giveUp =>
    refine ⟨hs.job, ?_⟩
    rintro f ⟨⟩
    exact exhaustion_regular _ _ _

end Poll

/-! ## Studies -/

namespace Study

/-- The states of a study once the job has been ordered. Its poll is the poll
of some job. -/
def Ordered : Machine → Prop
  | .begin => False
  | .ordered _ _ => True
  | .polling poll => ∃ jobId, Poll.Sound jobId poll

/-- The requests of a poll. -/
def AsksState (q : Client.Request) : Prop := ∃ jobId, q = .status jobId

variable {p : Plan} {now : Instant} {cancelled : Bool}

/-- An order that fails in any other way than by being cancelled is a failure
of its own. -/
theorem step_ordered_error {t : Instant} {error : Client.Error} (h : error ≠ .cancelled) :
    step p now cancelled (.ordered t (some (.error error))) = .settle (.error error.toFailure) := by
  cases error with
  | cancelled => exact absurd rfl h
  | network | api | invalidResponse | invalidRequest => rfl

theorem polled_keeps {jobId : String} {poll : Poll.Machine} (h : Poll.Sound jobId poll) :
    (polled (Poll.step p.options now cancelled poll)).Keeps Ordered AsksState RegularResult :=
  (Poll.poll_keeping p.options jobId now cancelled poll h).map (fun _ hpoll => ⟨jobId, hpoll⟩)
    (fun _ hq => ⟨jobId, hq⟩) fun _ hr => hr

/-- **After its order a study only polls.** -/
theorem ordered_keeping (p : Plan) : Keeping (step p) Ordered AsksState RegularResult := by
  intro now cancelled s hs
  match s with
  | .begin => exact hs.elim
  | .ordered startedAt answer =>
    match answer with
    | none => exact RegularResult.error Failure.pollingCancelled_regular
    | some (.error error) =>
      by_cases herror : error = .cancelled
      · subst herror
        exact RegularResult.error Failure.pollingCancelled_regular
      · rw [step_ordered_error herror]
        exact RegularResult.error (Failure.toFailure_regular error)
    | some (.ok (.completed report)) => exact RegularResult.ok _
    | some (.ok (.queued jobId status)) =>
      exact polled_keeps (Poll.start_sound p.options jobId now)
  | .polling poll =>
    obtain ⟨jobId, hpoll⟩ := hs
    exact polled_keeps hpoll

/-- **A study keeps to its order and its job.** -/
theorem study_keeping (p : Plan) :
    Keeping (step p) (fun s => s = .begin ∨ Ordered s)
      (fun q => q = .create p.order ∨ AsksState q) RegularResult := by
  intro now cancelled s hs
  obtain rfl | hordered := hs
  · simp only [step]
    split
    · exact RegularResult.error (Failure.validation_regular _)
    · split
      · exact RegularResult.error Failure.pollingCancelled_regular
      · exact ⟨.inl rfl, fun _ => .inr trivial⟩
  · exact (ordered_keeping p now cancelled s hordered).mono (fun _ => .inr) (fun _ => .inr)
      fun _ hr => hr

end Study

end Research

end Amanuensis
