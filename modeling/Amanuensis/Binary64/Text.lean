import Amanuensis.Binary64.Basic
/-!
# Doubles as decimal text

`shortest` is the decimal with the fewest digits that rounds to a given
double, the closest of those; `Tie` says which of two equally close ones
is taken. The texts are laid out from it: `plainText` never uses an
exponent, `exponentText` uses one for very large and very small numbers.
`fixedText` rounds the exact binary value to a set number of places.
Reading is `ofDecimal`, which rounds the exact decimal once.
-/


namespace Amanuensis

/-- The decimal `digits * 10 ^ exponent`. -/
structure Decimal where
  digits : Nat
  exponent : Int
deriving DecidableEq, Repr, Inhabited

namespace Decimal

/-- The same decimal without trailing zeros, at most `limit` of them. -/
def strip (d : Decimal) : (limit : Nat) → Decimal
  | 0 => d
  | limit + 1 =>
    if d.digits ≠ 0 ∧ d.digits % 10 = 0 then strip ⟨d.digits / 10, d.exponent + 1⟩ limit else d

/-- The exponent of the leading digit. -/
def leading (d : Decimal) : Int := d.exponent + ((toString d.digits).length : Int) - 1

/-- `n` zeros. -/
def zeros (n : Nat) : String := String.ofList (List.replicate n '0')

/-- The decimal written out in full, without an exponent. -/
def positional (d : Decimal) : String :=
  let text := toString d.digits
  if 0 ≤ d.exponent then text ++ zeros d.exponent.toNat
  else
    let point := (text.length : Int) + d.exponent
    if 0 < point then
      String.ofList (text.toList.take point.toNat) ++ "." ++
        String.ofList (text.toList.drop point.toNat)
    else "0." ++ zeros (-point).toNat ++ text

/-- The decimal with one digit before the point and a signed exponent. -/
def scientific (d : Decimal) : String :=
  let exponent := (if 0 ≤ d.leading then "e+" else "e") ++ toString d.leading
  match (toString d.digits).toList with
  | [] => exponent
  | [c] => String.singleton c ++ exponent
  | c :: rest => String.singleton c ++ "." ++ String.ofList rest ++ exponent

end Decimal

namespace Binary64

/-- Which of two equally close shortest decimals is taken. -/
inductive Tie where
  | even
  | up
deriving DecidableEq, Repr

/-! ## Shortest digits -/

/-- Compares `d` with `n` units of `2 ^ -1075`, exactly. -/
def compareDecimal (d : Decimal) (n : Nat) : Ordering :=
  compare (d.digits * Nat.pow 10 d.exponent.toNat * Nat.pow 2 1075)
    (n * Nat.pow 10 (-d.exponent).toNat)

/-- Does `d` round to the double with the magnitude bits `b`? The reals
that do lie between the midpoints to the two neighbouring doubles, the
midpoints included when the significand is even. -/
def readsBack (b : Nat) (d : Decimal) : Bool :=
  let low := compareDecimal d (magnitudeOf (b - 1) + magnitudeOf b)
  let high := compareDecimal d (magnitudeOf b + magnitudeOf (b + 1))
  let closed := b % 2 = 0
  (low == .gt || (closed && low == .eq)) && (high == .lt || (closed && high == .eq))

/-- The value of magnitude bits divided by `10 ^ exponent`, rounded
down. -/
def floorAt (b : Nat) (exponent : Int) : Nat :=
  magnitudeOf b * Nat.pow 10 (-exponent).toNat / (unit * Nat.pow 10 exponent.toNat)

/-- The least power of ten above the value, as its exponent: the first of
`limit` candidates going down from `start` that is above it while the
next is not. -/
def decade (b : Nat) (start : Int) : (limit : Nat) → Int
  | 0 => start
  | limit + 1 => if floorAt b (start - 1) = 0 then decade b (start - 1) limit else start

/-- Of the two neighbours of the value on the grid `10 ^ exponent`, the one
that reads back; the closer if both do. -/
def onGrid (b : Nat) (tie : Tie) (exponent : Int) : Option Decimal :=
  let low : Decimal := ⟨floorAt b exponent, exponent⟩
  let high : Decimal := ⟨low.digits + 1, exponent⟩
  match low.digits != 0 && readsBack b low, readsBack b high with
  | false, false => none
  | true, false => some low
  | false, true => some high
  | true, true =>
    match compareDecimal ⟨low.digits + high.digits, exponent⟩ (4 * magnitudeOf b) with
    | .gt => some low
    | .lt => some high
    | .eq => if tie = .even ∧ low.digits % 2 = 0 then some low else some high

/-- The shortest decimal that reads back as the double with the magnitude
bits `b`, for a finite double other than zero. Seventeen digits always
suffice. -/
def shortest (b : Nat) (tie : Tie) : Decimal :=
  let top := decade b 310 640
  match (List.range 17).findSome? fun (n : Nat) => onGrid b tie (top - 1 - n) with
  | some d => d.strip 20
  | none => ⟨magnitudeOf b * Nat.pow 5 1074, -1074⟩

/-! ## Layouts -/

/-- A number from its sign and the layout of its shortest decimal. -/
def layout (x : Binary64) (tie : Tie) (zero : String) (text : Decimal → String) : String :=
  if x.isNaN then "NaN"
  else
    (if x.isNegative then "-" else "") ++
      if x.isInfinite then "inf"
      else if x.magnitudeBits = 0 then zero
      else text (shortest x.magnitudeBits tie)

/-- The number written out in full, without a fraction if it is an
integer. -/
def plainText (x : Binary64) : String := layout x .up "0" Decimal.positional

/-- The number written out in full, with `.0` if it is an integer. -/
def pointText (x : Binary64) : String :=
  layout x .up "0.0" fun d => if 0 ≤ d.exponent then d.positional ++ ".0" else d.positional

/-- The number with `.0` if it is an integer, and with an exponent when its
leading digit stands at `10 ^ 16` or above, or below `10 ^ -5`. -/
def exponentText (x : Binary64) : String :=
  layout x .even "0.0" fun d =>
    if -5 ≤ d.leading ∧ d.leading < 16 then
      if 0 ≤ d.exponent then d.positional ++ ".0" else d.positional
    else d.scientific

/-- A finite number rounded to `places` places, a half to the even
neighbour. -/
def fixedText (x : Binary64) (places : Nat) : String :=
  if x.isNaN then "NaN"
  else
    (if x.isNegative then "-" else "") ++
      if x.isInfinite then "inf"
      else
        let digits := toString (roundDiv (x.magnitude * Nat.pow 10 places) unit)
        let text := (Decimal.zeros (places + 1 - digits.length) ++ digits).toList
        let whole := String.ofList (text.take (text.length - places))
        if places = 0 then whole
        else whole ++ "." ++ String.ofList (text.drop (text.length - places))

/-- The sixteen hexadecimal digits of the bits. -/
def hexText (x : Binary64) : String :=
  let digits := Nat.toDigits 16 x.bits.toNat
  String.ofList (List.replicate (16 - digits.length) '0' ++ digits)

/-! ## Reading -/

/-- The double nearest to a decimal. Decimals beyond the range of doubles
are settled by the place of their leading digit alone. -/
def ofDecimal (negative : Bool) (d : Decimal) : Binary64 :=
  if d.digits = 0 then make negative 0
  else if 400 < d.leading then make negative infinityBits
  else if d.leading < -400 then make negative 0
  else ofRatio negative (d.digits * Nat.pow 10 d.exponent.toNat) (Nat.pow 10 (-d.exponent).toNat)

end Binary64

end Amanuensis
