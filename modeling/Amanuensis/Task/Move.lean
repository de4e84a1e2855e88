import Amanuensis.Client.Request
/-!
# Moves

A task is a machine that runs on a clock. From its state, the time and the
state of its signal follows its next `Move`: it settles, reports an event,
cancels the caller's signal, waits, or asks something of the service. What
a wait ended in, or what was answered, leads to the next state. Tasks are
put together by `Move.map`, which places the moves of one machine inside
another.
-/


namespace Amanuensis

namespace Task

/-- How a wait ends. -/
inductive Wake where
  | elapsed
  /-- The signal has been cancelled. -/
  | cancelled
deriving DecidableEq, Repr

/-- What a task does next. Its states are `σ`, its events `ε` and its
results `ρ`. A wait or a request that heeds the signal ends when the signal
is cancelled. -/
inductive Move (σ ε ρ : Type) where
  | settle (result : ρ)
  | report (event : ε) (next : σ)
  /-- The caller's signal is cancelled. -/
  | cancel (next : σ)
  /-- A wait for a span of time, or without end. -/
  | wait (span : Option Nat) (heeds : Bool) (next : Wake → σ)
  /-- A request. It is answered by nothing if it was given up for the
  signal. -/
  | ask (request : Client.Request) (heeds : Bool)
      (next : Option (Except Client.Error request.Answer) → σ)

/-- The same move of another machine. -/
def Move.map {σ τ ε δ ρ π : Type} (state : σ → τ) (event : ε → δ) (result : ρ → π) :
    Move σ ε ρ → Move τ δ π
  | .settle r => .settle (result r)
  | .report e next => .report (event e) (state next)
  | .cancel next => .cancel (state next)
  | .wait span heeds next => .wait span heeds fun w => state (next w)
  | .ask q heeds next => .ask q heeds fun a => state (next a)

end Task

/-- A machine that runs on a clock: the next move follows from the time,
from whether the signal has been cancelled, and from the state. -/
structure Task (σ ε ρ : Type) where
  start : σ
  step : (now : Instant) → (cancelled : Bool) → σ → Task.Move σ ε ρ

end Amanuensis
