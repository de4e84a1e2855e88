import Amanuensis.Text.Numeral
/-!
# Percent encoding

A character that may not stand in a part of an address is written as its
bytes in UTF-8, each as a percent sign and two hexadecimal digits. Which
characters these are differs from part to part; controls and everything
beyond ASCII are always among them.
-/


namespace Amanuensis

namespace Url

/-! ## Bytes -/

/-- A character in UTF-8. -/
def utf8Char (c : Char) : List Nat :=
  let n := c.toNat
  if n < 0x80 then [n]
  else if n < 0x800 then [0xC0 + n / 0x40, 0x80 + n % 0x40]
  else if n < 0x10000 then [0xE0 + n / 0x1000, 0x80 + n / 0x40 % 0x40, 0x80 + n % 0x40]
  else [0xF0 + n / 0x40000, 0x80 + n / 0x1000 % 0x40, 0x80 + n / 0x40 % 0x40, 0x80 + n % 0x40]

/-- The digit of a value below sixteen, a capital above nine. -/
def hexDigit (n : Nat) : Char := Char.ofNat (if n < 10 then 48 + n else 55 + n)

/-- A byte, percent-encoded. -/
def encodeByte (b : Nat) : List Char := ['%', hexDigit (b / 16), hexDigit (b % 16)]

/-- A text in which the characters of a set are percent-encoded. -/
def encode (reserved : Char → Bool) (s : List Char) : List Char :=
  s.flatMap fun c => if reserved c then (utf8Char c).flatMap encodeByte else [c]

/-- The bytes of a text in which percent signs with two digits stand for
bytes. -/
def decodeBytes : List Char → List Nat
  | '%' :: a :: b :: rest =>
    if Text.isHexDigit a && Text.isHexDigit b then
      Text.digitsIn 16 [a, b] :: decodeBytes rest
    else 37 :: decodeBytes (a :: b :: rest)
  | c :: rest => utf8Char c ++ decodeBytes rest
  | [] => []

/-- The text of bytes in UTF-8, if they are that. -/
def textOfBytes? (bytes : List Nat) : Option (List Char) :=
  (String.fromUTF8? ⟨(bytes.map UInt8.ofNat).toArray⟩).map String.toList

/-! ## Sets -/

/-- Controls, and everything beyond ASCII. -/
def isControl (c : Char) : Bool := c < ' ' || '~' < c

/-- What is encoded in a fragment. -/
def inFragment (c : Char) : Bool :=
  isControl c || c = ' ' || c = '"' || c = '<' || c = '>' || c = '\x60'

/-- What is encoded in a query. -/
def inQuery (c : Char) : Bool :=
  isControl c || c = ' ' || c = '"' || c = '#' || c = '<' || c = '>'

/-- What is encoded in the path of an address that is read. -/
def inPath (c : Char) : Bool :=
  inFragment c || c = '#' || c = '?' || c = '\x7b' || c = '\x7d'

/-- What is encoded in a segment that is added to a path, so that it stays
one segment. -/
def inSegment (c : Char) : Bool := inPath c || c = '/' || c = '%'

/-- What is encoded in a user name or a password. -/
def inUserInfo (c : Char) : Bool :=
  inPath c || c = '/' || c = ':' || c = ';' || c = '=' || c = '@' || c = '[' || c = '\\' ||
    c = ']' || c = '^' || c = '|'

end Url

end Amanuensis
