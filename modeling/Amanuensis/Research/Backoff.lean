import Amanuensis.Duration
/-!
# Backoff

The intervals between the polls of one job: each is twice the one before,
up to a cap. `Backoff.after n` is the interval after `n` advances.
-/


namespace Amanuensis

namespace Research

/-- The interval after `previous`: twice as long, at most the cap. -/
def nextInterval (previous cap : Duration) : Duration := previous.double.least cap

/-- The interval that is due and the cap that it grows up to. -/
structure Backoff where
  current : Duration
  cap : Duration
deriving DecidableEq, Repr

namespace Backoff

/-- A first interval and a cap; a first interval above the cap counts as
the cap. -/
def new (initial cap : Duration) : Backoff := ⟨initial.least cap, cap⟩

/-- The backoff with the next interval due. -/
def advance (b : Backoff) : Backoff := ⟨nextInterval b.current b.cap, b.cap⟩

/-- The backoff after a number of advances. -/
def after (b : Backoff) : Nat → Backoff
  | 0 => b
  | n + 1 => (b.after n).advance

/-- The intervals from now on, a given number of them beyond the first. -/
def intervals (b : Backoff) : Nat → List Duration
  | 0 => [b.current]
  | n + 1 => b.current :: b.advance.intervals n

/-- The first interval and the cap that are used unless others are given. -/
def standard : Backoff := new (Duration.ofMillis 5000) (Duration.ofMillis 60000)

end Backoff

end Research

end Amanuensis
