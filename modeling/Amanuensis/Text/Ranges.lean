/-!
# Sets and maps of characters as ranges

A character class of the Unicode standard is held as a list of closed
ranges of code points, ascending and apart, and `covers` looks one up. A
map from characters to characters is held as runs at one distance from
their images, and `shifted?` follows it. The modules beside this one follow
Unicode 17, where they do not name another version.
-/


namespace Amanuensis

namespace Text

/-- Does one of the ascending ranges hold `n`? -/
def covers : List (Nat × Nat) → Nat → Bool
  | [], _ => false
  | (low, high) :: rest, n => if n < low then false else n ≤ high || covers rest n

/-- A run of characters at one distance from their images: every `step`-th
code point from `first` to `last`. -/
structure Shift where
  first : Nat
  last : Nat
  step : Nat
  distance : Int

/-- The image of a code point by ascending runs; there is none where no run
holds it. -/
def shifted? : List Shift → Nat → Option Nat
  | [], _ => none
  | run :: rest, n =>
    if n < run.first then none
    else if n ≤ run.last ∧ (n - run.first) % run.step = 0 then some ((n : Int) + run.distance).toNat
    else shifted? rest n

end Text

end Amanuensis
