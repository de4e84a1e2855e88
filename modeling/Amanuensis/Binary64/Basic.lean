/-!
# Double-precision numbers

A number in IEEE 754 double precision is its 64 bits. A finite one is an
exact multiple of `2 ^ -1074`, the least positive double, and `scaled` is
that multiple. Every operation here is the exact result rounded once:
`nearest` rounds a quotient of naturals to the nearest double, a tie to
the even significand, and each operation hands it the exact quotient.

Two orders are read off the bits. `le` is the numeric one, in which a NaN
is comparable with nothing and the two zeros are equal; `orderKey` is the
total one, used for sorting, in which every bit pattern has a place.
-/


namespace Amanuensis

/-- A double-precision number, as its bits. -/
structure Binary64 where
  bits : UInt64
deriving DecidableEq, Repr, Inhabited, Hashable

namespace Binary64

/-- `num / den` rounded to an integer, a half to the even neighbour. -/
def roundDiv (num den : Nat) : Nat :=
  let whole := num / den
  match compare (2 * (num % den)) den with
  | .lt => whole
  | .gt => whole + 1
  | .eq => if whole % 2 = 0 then whole else whole + 1

/-! ## Fields -/

/-- All bits but the sign. -/
def magnitudeBits (x : Binary64) : Nat := x.bits.toNat % Nat.pow 2 63

/-- The sign bit. -/
def isNegative (x : Binary64) : Bool := Nat.pow 2 63 ≤ x.bits.toNat

/-- The magnitude bits of infinity: the first pattern that is no finite
magnitude. -/
def infinityBits : Nat := 2047 * Nat.pow 2 52

def isNaN (x : Binary64) : Bool := infinityBits < x.magnitudeBits

def isInfinite (x : Binary64) : Bool := x.magnitudeBits = infinityBits

def isFinite (x : Binary64) : Bool := x.magnitudeBits < infinityBits

/-- The magnitude that magnitude bits stand for, in units of
`2 ^ -1074`. -/
def magnitudeOf (b : Nat) : Nat :=
  if b < Nat.pow 2 52 then b
  else (Nat.pow 2 52 + b % Nat.pow 2 52) * Nat.pow 2 (b / Nat.pow 2 52 - 1)

/-- The absolute value of a finite number, in units of `2 ^ -1074`. -/
def magnitude (x : Binary64) : Nat := magnitudeOf x.magnitudeBits

/-- The value of a finite number, in units of `2 ^ -1074`. -/
def scaled (x : Binary64) : Int :=
  if x.isNegative then -(x.magnitude : Int) else x.magnitude

/-- The number of units of `2 ^ -1074` in one. -/
def unit : Nat := Nat.pow 2 1074

/-- The number with a given sign and magnitude bits. -/
def make (negative : Bool) (magnitudeBits : Nat) : Binary64 :=
  ⟨UInt64.ofNat ((if negative then Nat.pow 2 63 else 0) + magnitudeBits)⟩

def nan : Binary64 := ⟨0x7FF8000000000000⟩

def infinity : Binary64 := make false infinityBits

/-! ## Rounding -/

/-- The magnitude bits of the double nearest to `num / den` units of
`2 ^ -1074`. Significand and exponent share one formula, because a
significand that rounds up to the next power of two carries into the
exponent field. -/
def nearestBits (num den : Nat) : Nat :=
  let shift := (num / den).log2 - 52
  min (shift * Nat.pow 2 52 + roundDiv num (den * Nat.pow 2 shift)) infinityBits

/-- The double nearest to `± num / den` units of `2 ^ -1074`. -/
def nearest (negative : Bool) (num den : Nat) : Binary64 :=
  make negative (nearestBits num den)

/-- The double nearest to `± num / den`. -/
def ofRatio (negative : Bool) (num den : Nat) : Binary64 :=
  nearest negative (num * unit) den

/-- The double nearest to a natural number. -/
def ofNat (n : Nat) : Binary64 := ofRatio false n 1

/-- The double nearest to an integer. -/
def ofInt (n : Int) : Binary64 := ofRatio (n < 0) n.natAbs 1

/-- The double nearest to a number of units of `2 ^ -1074`. -/
def ofScaled (n : Int) (den : Nat) : Binary64 := nearest (n < 0) n.natAbs den

/-- The sum of two finite numbers, rounded once. -/
def add (x y : Binary64) : Binary64 := ofScaled (x.scaled + y.scaled) 1

/-- The product of two finite numbers, rounded once. -/
def mul (x y : Binary64) : Binary64 :=
  nearest (x.isNegative != y.isNegative) (x.magnitude * y.magnitude) unit

/-- The quotient of two finite numbers, the second not zero, rounded
once. -/
def div (x y : Binary64) : Binary64 :=
  nearest (x.isNegative != y.isNegative) (x.magnitude * unit) y.magnitude

/-- The number with the other sign. -/
def neg (x : Binary64) : Binary64 := make (!x.isNegative) x.magnitudeBits

/-! ## Order -/

/-- The numeric order on bit patterns that are no NaN: infinities at the
ends, the two zeros equal. -/
def rank (x : Binary64) : Int :=
  if x.isNegative then -(x.magnitudeBits : Int) else x.magnitudeBits

/-- The numeric order. -/
def le (x y : Binary64) : Bool := !x.isNaN && !y.isNaN && decide (x.rank ≤ y.rank)

/-- The strict numeric order. -/
def lt (x y : Binary64) : Bool := !x.isNaN && !y.isNaN && decide (x.rank < y.rank)

/-- The total order on all bit patterns: negative NaNs below everything,
the negative zero just below the positive one, positive NaNs above
everything. -/
def orderKey (x : Binary64) : Int :=
  if x.isNegative then -(x.magnitudeBits : Int) - 1 else x.magnitudeBits

/-- A number held between two bounds; a NaN stays. -/
def clamp (x low high : Binary64) : Binary64 :=
  if x.lt low then low else if high.lt x then high else x

/-! ## Integers -/

/-- The integer nearest to a finite number, a half away from zero. -/
def roundAway (x : Binary64) : Int :=
  let whole := (2 * x.magnitude + unit) / (2 * unit)
  if x.isNegative then -(whole : Int) else whole

end Binary64

end Amanuensis
