import Amanuensis.Text.Ranges
/-!
# White space

The characters with the property White_Space, and the trimming functions
that go by it.
-/


namespace Amanuensis

namespace Text

/-- The white space characters. -/
def blankRanges : List (Nat × Nat) :=
  [(0x9, 0xD), (0x20, 0x20), (0x85, 0x85), (0xA0, 0xA0), (0x1680, 0x1680), (0x2000, 0x200A),
   (0x2028, 0x2029), (0x202F, 0x202F), (0x205F, 0x205F), (0x3000, 0x3000)]

/-- Is the character white space? -/
def isBlank (c : Char) : Bool := covers blankRanges c.toNat

/-- The text without leading white space. -/
def trimStart (s : List Char) : List Char := s.dropWhile isBlank

/-- The text without trailing characters in a class. -/
def dropEndWhile (p : Char → Bool) (s : List Char) : List Char :=
  (s.reverse.dropWhile p).reverse

/-- The text without trailing white space. -/
def trimEnd (s : List Char) : List Char := dropEndWhile isBlank s

/-- The text without white space at either end. -/
def trim (s : List Char) : List Char := trimEnd (trimStart s)

end Text

end Amanuensis
