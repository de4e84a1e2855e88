import Amanuensis.Text.Lowercase
import Amanuensis.Url.Domain.Expansions
import Amanuensis.Url.Domain.Images
import Amanuensis.Url.Domain.Refused
/-!
# Characters of a domain name

What a character means in a domain name. Some are refused and some are
dropped; of the others those that differ only in dress are one: each
stands for its plain form in lower case. `image?` is that rule for one
character, `mapped?` for a text.
-/


namespace Amanuensis

namespace Url.Domain

/-- The characters that are dropped. -/
def ignoredRanges : List (Nat × Nat) :=
  [(0xAD, 0xAD), (0x34F, 0x34F), (0x115F, 0x1160), (0x17B4, 0x17B5), (0x180B, 0x180F),
   (0x200B, 0x200B), (0x2060, 0x2064), (0x206A, 0x206F), (0x3164, 0x3164), (0xFE00, 0xFE0F),
   (0xFEFF, 0xFEFF), (0xFFA0, 0xFFA0), (0x1BCA0, 0x1BCA3), (0x1D173, 0x1D17A), (0xE0100, 0xE01EF)]

/-- What a character stands for; nothing at all if it is refused. -/
def image? (c : Char) : Option (List Char) :=
  let n := c.toNat
  if Text.covers refusedRanges n then none
  else if Text.covers ignoredRanges n then some []
  else
    match expansionIn? expansionRows n with
    | some s => some s
    | none =>
      match Text.shifted? shifts n with
      | some m => some [Char.ofNat m]
      | none => some [(imageIn? imageRows n).getD (Text.lowerChar c)]

/-- What a text stands for; nothing at all if a character is refused. -/
def mapped? (s : List Char) : Option (List Char) := (s.mapM image?).map List.flatten

/-- Does the character stand for itself? -/
def isPlain (c : Char) : Bool := image? c = some [c]

end Url.Domain

end Amanuensis
