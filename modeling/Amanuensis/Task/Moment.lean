import Amanuensis.Task.Move
/-!
# Moments

Where a run stands: what time it is, from when on the caller's signal is
cancelled, and what has been asked and reported so far. Only one task runs
on a clock, so whatever ends a wait is known when the wait begins: `await`
gives the instant at which it ends and what ends it, and `reception` does
the same for a request.

Of several things that fall on one instant, the signal comes first.

The clock counts nanoseconds in 64 bits. A span that ends beyond its reach
is waited for as one of thirty years.
-/


namespace Amanuensis

namespace Task

/-- The clock tells the instants before this one. -/
def clockReach : Nat := UInt64.size

/-- Thirty years of 365 days, in nanoseconds. -/
def thirtyYears : Nat := 30 * 365 * 86400 * Duration.nanosPerSecond

/-- When a span that begins at some instant is over. -/
def due (t : Instant) (span : Nat) : Instant :=
  if t + span < clockReach then t + span else t + thirtyYears

/-- Where a run stands. -/
structure Moment where
  now : Instant
  /-- From when on the caller's signal is cancelled. -/
  stop : Option Instant
  /-- What has been asked so far. -/
  tally : Client.Tally
  /-- How many events have been reported to the listener. -/
  heard : Nat
deriving DecidableEq, Repr

/-- What a task runs in. -/
structure Setting (ε : Type) where
  client : Client
  /-- Has the task been given the caller's signal? -/
  signalled : Bool
  /-- Who listens to the events, if anyone does: a listener may cancel the
  caller's signal at an event. -/
  listener : Option (Nat → ε → Bool)

namespace Moment

/-- The start of a run whose signal is cancelled from some instant on. -/
def start (stop : Option Instant) : Moment := ⟨0, stop, Client.Tally.zero, 0⟩

/-- The same moment at another time. -/
def goto (m : Moment) (t : Instant) : Moment := { m with now := t }

/-- The caller's signal is cancelled now, if it was not cancelled before. -/
def cancel (m : Moment) : Moment :=
  { m with stop := some (match m.stop with
      | some s => min s m.now
      | none => m.now) }

/-- When a span that begins now is over. -/
def after (m : Moment) (span : Nat) : Instant := due m.now span

/-- From when on a task sees its signal cancelled. -/
def seen (m : Moment) (signalled : Bool) : Option Instant := if signalled then m.stop else none

/-- Does a task see its signal cancelled? -/
def cancelled (m : Moment) (signalled : Bool) : Bool :=
  match m.seen signalled with
  | some s => s ≤ m.now
  | none => false

/-! ## Waiting -/

/-- When and how a wait ends that is due at some instant, if it ends. -/
def await (m : Moment) (signalled : Bool) (due : Option Instant) (heeds : Bool) :
    Option (Instant × Wake) :=
  match if heeds then m.seen signalled else none, due with
  | some s, some d => if s ≤ d then some (max s m.now, .cancelled) else some (d, .elapsed)
  | some s, none => some (max s m.now, .cancelled)
  | none, some d => some (d, .elapsed)
  | none, none => none

/-- When and what a reply answers, if it does. -/
def answer {α : Type} (m : Moment) (signalled : Bool) (r : Client.Reply α) :
    Option (Instant × Except Client.Error α) :=
  match m.await signalled (r.delay.map m.after) r.heeds with
  | none => none
  | some (t, .cancelled) => some (t, .error .cancelled)
  | some (t, .elapsed) =>
    match r.ending with
    | some a => some (t, a)
    | none => (m.seen signalled).map fun s => (max s t, .error .cancelled)

/-- When and with what a request is over. An answer that is there at once
is taken; one that takes time is not waited for beyond the cancellation of
the signal, if the request heeds it. -/
def reception {α : Type} (m : Moment) (signalled heeds : Bool) (r : Client.Reply α) :
    Option (Instant × Option (Except Client.Error α)) :=
  match m.answer signalled r with
  | some (t, a) =>
    if t = m.now then some (t, some a)
    else
      match m.await signalled (some t) heeds with
      | some (u, .cancelled) => some (u, none)
      | _ => some (t, some a)
  | none => (m.await signalled none heeds).map fun w => (w.1, none)

end Moment

end Task

end Amanuensis
