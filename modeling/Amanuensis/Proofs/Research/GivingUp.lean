import Amanuensis.Proofs.Research.Keeping
import Amanuensis.Proofs.Task.Honesty
import Amanuensis.Proofs.Task.Lockstep
/-!
# How research is given up

Polls and studies say that they were cancelled for one reason, which is that
their signal is. Where they find it cancelled they give up or do what they do
anyway (`step_yielding`), and after that they have a few moves left
(`step_winding`). As long as it is not they get to no state that owes itself
to it, and settle with something else (`step_uncancelled`).
-/


namespace Amanuensis

namespace Failure

@[simp] theorem network_isCancellation (message : String) :
    (network message).isCancellation = false := rfl

@[simp] theorem remote_isCancellation (code message : String) :
    (remote code message).isCancellation = false := by
  simp [isCancellation, remote]

/-- A request that was not cancelled does not fail as cancelled. -/
theorem toFailure_isCancellation {error : Client.Error} (h : error ≠ .cancelled) :
    error.toFailure.isCancellation = false := by
  cases error with
  | cancelled => exact absurd rfl h
  | network message => rfl
  | api code message => exact remote_isCancellation code message
  | invalidResponse message => exact remote_isCancellation _ message
  | invalidRequest message => rfl

end Failure

namespace Research

open Amanuensis.Task

/-- A result that is no cancellation. -/
def UncancelledResult {α : Type} (result : Except Failure α) : Prop :=
  ∀ f, result = .error f → f.isCancellation = false

theorem UncancelledResult.ok {α : Type} (a : α) : UncancelledResult (.ok a) := nofun

theorem UncancelledResult.error {α : Type} {f : Failure} (h : f.isCancellation = false) :
    UncancelledResult (.error f : Except Failure α) := by
  rintro f' ⟨⟩
  exact h

/-- The result of research that is given up. -/
def CancelledResult {α : Type} (result : Except Failure α) : Prop :=
  result = .error .pollingCancelled

/-- What a request that was not cancelled ends with. -/
def UnbrokenAnswer {α : Type} (answer : Option (Except Client.Error α)) : Prop :=
  answer ≠ none ∧ answer ≠ some (.error .cancelled)

theorem UnbrokenAnswer.of_ne {α : Type} {answer : Except Client.Error α}
    (h : answer ≠ .error .cancelled) : UnbrokenAnswer (some answer) :=
  ⟨Option.some_ne_none answer, fun hsome => h (Option.some.inj hsome)⟩

theorem UnbrokenAnswer.ne_cancelled {α : Type} {error : Client.Error}
    (h : UnbrokenAnswer (some (.error error) : Option (Except Client.Error α))) :
    error ≠ .cancelled := by
  rintro rfl
  exact h.2 rfl

/-! ## Polls -/

namespace Poll

variable {o : Options} {now : Instant} {c : Course} {result : Except Failure Finding}

/-- **A poll that finds its signal cancelled gives up**, unless what it was
told is the end of it anyway. -/
theorem step_yielding (o : Options) : Yielding (step o) CancelledResult := by
  refine ⟨fun now s => ?_, fun now s => ?_⟩
  · have hshape := step_shape o now false s
    generalize step o now false s = move at hshape ⊢
    cases hshape with
    | settle | overdue | exhausted | tell | giveUp => trivial
    | begin | next | back => exact fun _ _ => ⟨_, rfl, rfl⟩
    | ask | again => exact ⟨fun _ _ => ⟨_, rfl, rfl⟩, fun _ _ => ⟨_, rfl, rfl⟩⟩
  · obtain ⟨c, phase⟩ := s
    cases phase with
    | begin => exact .inr ⟨_, rfl, rfl⟩
    | rested how => cases how <;> exact .inl rfl
    | retried failures how => cases how <;> exact .inl rfl
    | exhausted failure => exact .inl rfl
    | answered failures answer =>
      match answer with
      | none => exact .inl rfl
      | some (.ok state) => exact .inl rfl
      | some (.error error) => cases error <;> exact .inl rfl
    | reported state =>
      simp only [step]
      cases conclude c now state with
      | some result => exact .inl rfl
      | none => exact .inr ⟨_, rfl, rfl⟩

/-- It has three moves left at most. -/
theorem step_winding (o : Options) : Winding (step o) movesLeft := by
  intro now s
  have hshape := step_shape o now true s
  generalize step o now true s = move at hshape ⊢
  cases hshape with
  | settle | overdue | exhausted => trivial
  | begin | next => exact fun _ => Nat.one_lt_two
  | ask | again => exact ⟨Nat.one_pos, nofun⟩
  | tell => exact Nat.lt_succ_self 2
  | back => exact fun _ => Nat.one_lt_succ_succ 1
  | giveUp => exact Nat.succ_pos 2

/-- The states of a poll whose signal is not cancelled. -/
def Unbroken (s : Machine) : Prop :=
  match s.2 with
  | .begin | .reported _ => True
  | .rested how | .retried _ how => how = .elapsed
  | .answered _ answer => UnbrokenAnswer answer
  | .exhausted failure => failure.isCancellation = false

theorem conclude_uncancelled {s : State} (h : conclude c now s = some result) :
    UncancelledResult result := by
  unfold conclude at h
  split at h
  · split at h <;> cases h
    · exact .ok _
    · exact .error (Failure.remote_isCancellation _ _)
  · cases h
    cases s.error <;> exact .error (Failure.remote_isCancellation _ _)
  · cases h

theorem beginSlot_uncancelled :
    (beginSlot o now false c).Uncancelled Unbroken UncancelledResult := by
  simp only [beginSlot, Bool.false_eq_true, if_false]
  split
  · exact UncancelledResult.error rfl
  · exact rfl

theorem askState_uncancelled {failures : UInt32} :
    (askState c failures).Uncancelled Unbroken UncancelledResult :=
  fun _ => UnbrokenAnswer.of_ne

theorem reported_uncancelled {state : State} :
    (step o now false (c, .reported state)).Uncancelled Unbroken UncancelledResult := by
  simp only [step]
  split
  · exact conclude_uncancelled ‹_›
  · exact beginSlot_uncancelled

/-- An error other than a cancellation ends a poll as what it is, or is
followed by another request. -/
theorem answered_error_uncancelled {failures : UInt32} {error : Client.Error}
    (h : error ≠ .cancelled) :
    (step o now false (c, .answered failures (some (.error error)))).Uncancelled Unbroken
      UncancelledResult := by
  cases error with
  | cancelled => exact absurd rfl h
  | network message =>
    change (retry o now c (failures + 1) message).Uncancelled Unbroken UncancelledResult
    unfold retry
    split
    · exact Failure.network_isCancellation _
    · exact rfl
  | api | invalidResponse | invalidRequest =>
    exact UncancelledResult.error (Failure.toFailure_isCancellation h)

/-- **A poll whose signal is not cancelled does not say that it is.** -/
theorem step_uncancelled (o : Options) : Uncancelled (step o) Unbroken UncancelledResult := by
  rintro now ⟨c, phase⟩ hs
  cases phase with
  | begin => exact beginSlot_uncancelled
  | rested how =>
    obtain rfl : how = .elapsed := hs
    exact askState_uncancelled
  | retried failures how =>
    obtain rfl : how = .elapsed := hs
    exact askState_uncancelled
  | exhausted failure => exact UncancelledResult.error hs
  | reported state => exact reported_uncancelled
  | answered failures answer =>
    match answer with
    | none => exact absurd rfl hs.1
    | some (.ok state) => exact trivial
    | some (.error error) => exact answered_error_uncancelled hs.ne_cancelled

end Poll

/-! ## Studies -/

namespace Study

variable {p : Plan} {now : Instant}

/-- A poll that gives up is given up as a study. -/
theorem polling_yields {poll : Poll.Machine}
    (h : Yields (Poll.step p.options) CancelledResult poll) :
    Yields (step p) CancelledResult (.polling poll) := by
  intro now cancelled
  obtain ⟨r, hsettle, hgivenUp⟩ := h now cancelled
  exact ⟨r, congrArg polled hsettle, hgivenUp⟩

theorem polled_heeds (poll : Poll.Machine) :
    (polled (Poll.step p.options now false poll)).Heeds (Yields (step p) CancelledResult) :=
  ((Poll.step_yielding p.options).heeds now poll).map fun _ => polling_yields

theorem polled_finds (poll : Poll.Machine) :
    polled (Poll.step p.options now true poll) = polled (Poll.step p.options now false poll) ∨
      ∃ r, polled (Poll.step p.options now true poll) = .settle r ∧ CancelledResult r := by
  obtain hsame | ⟨r, hsettle, hgivenUp⟩ := (Poll.step_yielding p.options).finds now poll
  · exact .inl (congrArg polled hsame)
  · exact .inr ⟨r, congrArg polled hsettle, hgivenUp⟩

/-- **A study that finds its signal cancelled gives up**, unless it refuses
its question or the answer to its order is the end of it anyway. -/
theorem step_yielding (p : Plan) : Yielding (step p) CancelledResult := by
  refine ⟨fun now s => ?_, fun now s => ?_⟩
  · match s with
    | .begin =>
      simp only [step]
      generalize p.question.isEmpty = blank
      cases blank with
      | true => trivial
      | false => exact ⟨fun _ _ => ⟨_, rfl, rfl⟩, fun _ _ => ⟨_, rfl, rfl⟩⟩
    | .ordered _ none => trivial
    | .ordered _ (some (.error error)) => cases error <;> trivial
    | .ordered _ (some (.ok (.completed report))) => trivial
    | .ordered _ (some (.ok (.queued jobId status))) => exact polled_heeds _
    | .polling poll => exact polled_heeds poll
  · match s with
    | .begin =>
      simp only [step]
      generalize p.question.isEmpty = blank
      cases blank with
      | true => exact .inl rfl
      | false => exact .inr ⟨_, rfl, rfl⟩
    | .ordered _ none => exact .inl rfl
    | .ordered _ (some (.error error)) => cases error <;> exact .inl rfl
    | .ordered _ (some (.ok (.completed report))) => exact .inl rfl
    | .ordered _ (some (.ok (.queued jobId status))) => exact polled_finds _
    | .polling poll => exact polled_finds poll

/-- The moves that a study has left once its signal is cancelled, at
most. -/
def movesLeft : Machine → Nat
  | .begin | .ordered _ _ => 0
  | .polling poll => Poll.movesLeft poll

theorem step_winding (p : Plan) : Winding (step p) movesLeft := by
  intro now s
  match s with
  | .begin =>
    simp only [step]
    generalize p.question.isEmpty = blank
    cases blank <;> trivial
  | .ordered _ none => trivial
  | .ordered _ (some (.error error)) => cases error <;> trivial
  | .ordered _ (some (.ok (.completed report))) => trivial
  | .ordered _ (some (.ok (.queued jobId status))) => trivial
  | .polling poll =>
    exact (Poll.step_winding p.options now poll).map (fun _ => rfl) (Nat.le_refl _)

/-- The states of a study whose signal is not cancelled. -/
def Unbroken : Machine → Prop
  | .begin => True
  | .ordered _ answer => UnbrokenAnswer answer
  | .polling poll => Poll.Unbroken poll

theorem polled_uncancelled {poll : Poll.Machine} (h : Poll.Unbroken poll) :
    (polled (Poll.step p.options now false poll)).Uncancelled Unbroken UncancelledResult :=
  (Poll.step_uncancelled p.options now poll h).map (fun _ hpoll => hpoll) fun _ hr => hr

/-- **A study whose signal is not cancelled does not say that it is.** -/
theorem step_uncancelled (p : Plan) : Uncancelled (step p) Unbroken UncancelledResult := by
  intro now s hs
  match s with
  | .begin =>
    simp only [step]
    generalize p.question.isEmpty = blank
    cases blank with
    | true => exact UncancelledResult.error rfl
    | false => exact fun _ => UnbrokenAnswer.of_ne
  | .ordered _ none => exact absurd rfl hs.1
  | .ordered _ (some (.error error)) =>
    rw [step_ordered_error hs.ne_cancelled]
    exact UncancelledResult.error (Failure.toFailure_isCancellation hs.ne_cancelled)
  | .ordered _ (some (.ok (.completed report))) => exact UncancelledResult.ok _
  | .ordered _ (some (.ok (.queued jobId status))) => exact polled_uncancelled trivial
  | .polling poll => exact polled_uncancelled hs

end Study

end Research

end Amanuensis
