import Amanuensis.Binary64.Text
/-!
# Numerals

Numbers as people write them. Each reader takes a whole text: a natural
number and an integer in decimal digits with a limit on their size, and a
double as digits with a point and an exponent or as one of the words for
infinity and for no number.
-/


namespace Amanuensis

namespace Text

/-- Is the character a decimal digit? -/
def isDigit (c : Char) : Bool := '0' ≤ c && c ≤ '9'

/-- Is the character a hexadecimal digit? -/
def isHexDigit (c : Char) : Bool :=
  isDigit c || ('a' ≤ c && c ≤ 'f') || ('A' ≤ c && c ≤ 'F')

/-- The number that digits write in a base up to 16. -/
def digitsIn (base : Nat) (digits : List Char) : Nat :=
  digits.foldl
    (fun n c =>
      base * n +
        (if isDigit c then c.toNat - 48 else if 'a' ≤ c then c.toNat - 87 else c.toNat - 55)) 0

/-- The number that one or more decimal digits write. -/
def digits? (s : List Char) : Option Nat :=
  if !s.isEmpty && s.all isDigit then some (digitsIn 10 s) else none

/-- A text without its sign, and whether that is a minus. -/
def signed : List Char → Bool × List Char
  | '-' :: rest => (true, rest)
  | '+' :: rest => (false, rest)
  | s => (false, s)

/-- A natural number below a limit, perhaps with a plus. -/
def naturalBelow? (limit : Nat) (s : List Char) : Option Nat :=
  match signed s with
  | (true, _) => none
  | (false, rest) => (digits? rest).filter (· < limit)

/-- The least natural number that does not fit 64 bits with a sign. -/
def wordLimit : Nat := Nat.pow 2 63

/-- Does the integer fit 64 bits with a sign? -/
def fitsWord (n : Int) : Bool := -wordLimit ≤ n && n < wordLimit

/-- An integer of 64 bits. -/
def integer? (s : List Char) : Option Int :=
  let (negative, rest) := signed s
  (digits? rest).bind fun n =>
    let value : Int := if negative then -n else n
    if fitsWord value then some value else none

/-- The exponent of a numeral that goes on with `s`, zero where it has
none. -/
def exponent? : (s : List Char) → Option Int
  | [] => some 0
  | c :: s =>
    if c = 'e' ∨ c = 'E' then
      let (negative, rest) := signed s
      (digits? rest).map fun n => if negative then -n else n
    else none

/-- The magnitude of a numeral with a point and an exponent. -/
def decimal? (s : List Char) : Option Decimal :=
  let whole := s.takeWhile isDigit
  let rest := s.dropWhile isDigit
  let (fraction, rest) :=
    match rest with
    | '.' :: rest => (rest.takeWhile isDigit, rest.dropWhile isDigit)
    | rest => ([], rest)
  if whole.isEmpty && fraction.isEmpty then none
  else
    (exponent? rest).map fun e =>
      ⟨digitsIn 10 (whole ++ fraction), e - (fraction.length : Int)⟩

/-- A double. -/
def double? (s : List Char) : Option Binary64 :=
  let (negative, rest) := signed s
  let withSign (x : Binary64) : Binary64 := if negative then x.neg else x
  let word := String.ofList (rest.map Char.toLower)
  if word = "nan" then some (withSign .nan)
  else if word = "inf" ∨ word = "infinity" then some (withSign .infinity)
  else (decimal? rest).map (Binary64.ofDecimal negative)

end Text

end Amanuensis
