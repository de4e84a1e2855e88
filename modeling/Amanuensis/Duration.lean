import Amanuensis.Binary64.Text
/-!
# Durations

A span of time in whole nanoseconds, up to a greatest one. Sums that would
go beyond it stay at it. `Duration.text` writes a duration in its largest
fitting unit, `Duration.secondsText` in seconds with one place.
-/


namespace Amanuensis

/-- A span of time. -/
structure Duration where
  nanos : Nat
  /-- The greatest duration is just short of `2 ^ 64` seconds. -/
  nanos_lt : nanos < UInt64.size * 1000000000
deriving DecidableEq, Repr

namespace Duration

/-- The greatest duration, in nanoseconds. -/
def maxNanos : Nat := UInt64.size * 1000000000 - 1

/-- The duration of so many nanoseconds, or the greatest one. -/
def ofNanos (n : Nat) : Duration :=
  ⟨min n maxNanos, Nat.lt_of_le_of_lt (Nat.min_le_right n maxNanos) (by decide)⟩

instance : Inhabited Duration := ⟨ofNanos 0⟩

/-- Nanoseconds in a millisecond. -/
def nanosPerMilli : Nat := 1000000

/-- Nanoseconds in a second. -/
def nanosPerSecond : Nat := 1000000000

def ofMillis (n : Nat) : Duration := ofNanos (n * nanosPerMilli)

/-- A duration from its whole seconds and the nanoseconds left. -/
def ofParts (seconds nanos : Nat) : Duration := ofNanos (seconds * nanosPerSecond + nanos)

/-- The whole seconds. -/
def seconds (d : Duration) : Nat := d.nanos / nanosPerSecond

/-- The nanoseconds beyond the whole seconds. -/
def subsecond (d : Duration) : Nat := d.nanos % nanosPerSecond

/-- The whole milliseconds. -/
def millis (d : Duration) : Nat := d.nanos / nanosPerMilli

/-- Twice as long, or the greatest duration. -/
def double (d : Duration) : Duration := ofNanos (d.nanos * 2)

/-- The shorter of two durations. -/
def least (d e : Duration) : Duration := if d.nanos ≤ e.nanos then d else e

/-! ## Texts -/

/-- The whole part and the fraction of `n` in a unit of `10 ^ places`,
without trailing zeros. -/
def inUnit (n places : Nat) : String :=
  let whole := toString (n / Nat.pow 10 places)
  let rest := toString (n % Nat.pow 10 places)
  let digits := List.replicate (places - rest.length) '0' ++ rest.toList
  let shown := (digits.reverse.dropWhile (· == '0')).reverse
  if shown.isEmpty then whole else whole ++ "." ++ String.ofList shown

/-- The duration in the largest unit that it fills: seconds, milliseconds,
microseconds or nanoseconds. -/
def text (d : Duration) : String :=
  if nanosPerSecond ≤ d.nanos then inUnit d.nanos 9 ++ "s"
  else if nanosPerMilli ≤ d.nanos then inUnit d.nanos 6 ++ "ms"
  else if 1000 ≤ d.nanos then inUnit d.nanos 3 ++ "µs"
  else toString d.nanos ++ "ns"

/-- The seconds as a double: the whole seconds, and the rest divided, each
rounded on its own before they are added. -/
def secondsNumber (d : Duration) : Binary64 :=
  (Binary64.ofNat d.seconds).add
    ((Binary64.ofNat d.subsecond).div (Binary64.ofNat nanosPerSecond))

/-- The seconds with one place. -/
def secondsText (d : Duration) : String := d.secondsNumber.fixedText 1

end Duration

end Amanuensis
