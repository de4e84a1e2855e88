import Amanuensis.Proofs.Research.Interval
import Amanuensis.Proofs.Task.Interruption
import Amanuensis.Proofs.Task.Truncation
/-!
# The moves of a poll

`Shape` lists the moves that the polling machine can make, phase by phase
and with the guards under which it makes them; `step_shape` says that there
are no others. What holds of every move of a poll is read off this list:
that a poll is given up for its signal (`step_obedient`, `step_prompt`), and
that it keeps asking (`step_busy`).
-/


namespace Amanuensis

namespace Research

namespace Poll

open Amanuensis.Task

/-- A result that is not the end of the budget. -/
def Untimed (result : Except Failure Finding) : Prop :=
  ∀ failure, result = .error failure → failure.kind ≠ .pollingTimeout

/-- The moves that the polling machine has at an instant. -/
inductive Shape (o : Options) (now : Instant) : Machine → Move → Prop
  | settle {s result} : Untimed result → Shape o now s (.settle result)
  | overdue {c phase} : o.maxDuration.nanos ≤ (c.elapsed now).nanos →
      Shape o now (c, phase) (.settle (.error (.pollingTimeout (c.elapsed now) c.count)))
  | exhausted {c failure} : Shape o now (c, .exhausted failure) (.settle (.error failure))
  | begin {c} : (c.elapsed now).nanos < o.maxDuration.nanos →
      Shape o now (c, .begin)
        (.wait (some c.backoff.current.nanos) true fun how => (c, .rested how))
  | next {c state} : (c.elapsed now).nanos < o.maxDuration.nanos →
      Shape o now (c, .reported state)
        (.wait (some c.backoff.advance.current.nanos) true fun how =>
          ({ c with backoff := c.backoff.advance }, .rested how))
  | ask {c} : Shape o now (c, .rested .elapsed) (askState { c with count := c.count + 1 } 0)
  | again {c failures} : Shape o now (c, .retried failures .elapsed) (askState c failures)
  | tell {c failures state} :
      Shape o now (c, .answered failures (some (.ok state)))
        (.report (c.event now state.status state.progress)
          ({ c with last := state.status }, .reported state))
  | back {c failures message} : ¬ o.maxRetries < failures + 1 →
      Shape o now (c, .answered failures (some (.error (.network message))))
        (.wait (some o.retryDelay.nanos) true fun how => (c, .retried (failures + 1) how))
  | giveUp {c failures message} : o.maxRetries < failures + 1 →
      Shape o now (c, .answered failures (some (.error (.network message))))
        (.report (c.event now c.last none)
          (c, .exhausted (exhaustion c.jobId (failures + 1) message)))

theorem conclude_untimed {c : Course} {now : Instant} {state : State}
    {result : Except Failure Finding} (h : conclude c now state = some result) :
    Untimed result := by
  rintro failure rfl
  unfold conclude at h
  split at h
  · split at h <;> cases h
    nofun
  · cases h
    cases state.error <;> nofun
  · cases h

theorem toFailure_untimed (error : Client.Error) : Untimed (.error error.toFailure) := by
  rintro failure ⟨⟩
  cases error <;> nofun

/-- **Every move of a poll is one of them.** -/
theorem step_shape (o : Options) (now : Instant) (cancelled : Bool) (s : Machine) :
    Shape o now s (step o now cancelled s) := by
  have hcancelled : Untimed (.error .pollingCancelled) := by
    rintro failure ⟨⟩
    nofun
  obtain ⟨c, phase⟩ := s
  cases phase with
  | begin =>
    simp only [step, beginSlot]
    split
    · exact .settle hcancelled
    · split
      · exact .overdue ‹_›
      · exact .begin (Nat.not_le.1 ‹_›)
  | reported state =>
    simp only [step]
    split
    · exact .settle (conclude_untimed ‹_›)
    · unfold beginSlot
      split
      · exact .settle hcancelled
      · split
        · exact .overdue ‹_›
        · exact .next (Nat.not_le.1 ‹_›)
  | rested how =>
    cases how with
    | elapsed => exact .ask
    | cancelled => exact .settle hcancelled
  | retried failures how =>
    cases how with
    | elapsed => exact .again
    | cancelled => exact .settle hcancelled
  | exhausted failure => exact .exhausted
  | answered failures answer =>
    match answer with
    | none => exact .settle hcancelled
    | some (.ok s) => exact .tell
    | some (.error (.network message)) =>
      change Shape o now _ (retry o now c (failures + 1) message)
      unfold retry
      split
      · exact .giveUp ‹_›
      · exact .back ‹_›
    | some (.error .cancelled) => exact .settle hcancelled
    | some (.error (.api code message)) => exact .settle (toFailure_untimed (.api code message))
    | some (.error (.invalidResponse message)) =>
      exact .settle (toFailure_untimed (.invalidResponse message))
    | some (.error (.invalidRequest message)) =>
      exact .settle (toFailure_untimed (.invalidRequest message))

/-! ## What every move keeps to -/

/-- Every wait and every request of a poll is given up for the signal, and
the poll with it. -/
theorem step_obedient (o : Options) : Obedient (step o) (.error .pollingCancelled) := by
  intro now cancelled s
  have hshape := step_shape o now cancelled s
  generalize step o now cancelled s = move at hshape ⊢
  cases hshape with
  | settle | overdue | exhausted | tell | giveUp => trivial
  | begin | next | ask | again | back => exact ⟨rfl, fun _ => rfl⟩

/-- The moves of a poll before its next request, at most. -/
def movesLeft (s : Machine) : Nat :=
  match s.2 with
  | .begin | .reported _ => 2
  | .rested _ | .retried _ _ => 1
  | .answered _ (some _) => 3
  | .answered _ none | .exhausted _ => 0

/-- A poll makes three moves at most between two requests. -/
theorem step_busy (o : Options) : Busy (step o) movesLeft 3 := by
  intro now cancelled s
  have hshape := step_shape o now cancelled s
  generalize step o now cancelled s = move at hshape ⊢
  cases hshape with
  | settle | overdue | exhausted => trivial
  | begin | next => exact fun _ => Nat.one_lt_two
  | ask | again => exact ⟨Nat.one_pos, fun _ => Nat.le_refl _⟩
  | tell => exact Nat.lt_succ_self 2
  | back => exact fun _ => Nat.one_lt_succ_succ 1
  | giveUp => exact Nat.succ_pos 2

/-- Right after an event a poll settles, if its signal is cancelled. -/
theorem step_prompt (o : Options) : Prompt (step o) := by
  intro now cancelled s event next hmove t
  have hshape := step_shape o now cancelled s
  rw [hmove] at hshape
  cases hshape with
  | tell =>
    simp only [step]
    split
    · exact ⟨_, rfl⟩
    · exact ⟨.error .pollingCancelled, rfl⟩
  | giveUp => exact ⟨_, rfl⟩

end Poll

end Research

end Amanuensis
