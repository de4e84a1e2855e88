/-!
# Base 64

Bytes as a text of 64 characters: three bytes are four digits of six bits.
At the end of the bytes signs of equality stand for missing digits.
-/


namespace Amanuensis

namespace Text

/-- The digit of a value below 64. -/
def digit64 (n : Nat) : Char :=
  if n < 26 then Char.ofNat (65 + n)
  else if n < 52 then Char.ofNat (71 + n)
  else if n < 62 then Char.ofNat (n - 4)
  else if n = 62 then '+'
  else '/'

/-- The digits of a number of 24 bits. -/
def digits64 (n : Nat) : List Char :=
  [digit64 (n / 262144), digit64 (n / 4096 % 64), digit64 (n / 64 % 64), digit64 (n % 64)]

/-- Bytes in base 64. -/
def base64 : List Nat → List Char
  | a :: b :: c :: rest => digits64 (a * 65536 + b * 256 + c) ++ base64 rest
  | [a, b] => (digits64 (a * 65536 + b * 256)).take 3 ++ ['=']
  | [a] => (digits64 (a * 65536)).take 2 ++ ['=', '=']
  | [] => []

end Text

end Amanuensis
