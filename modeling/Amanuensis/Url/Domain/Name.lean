import Amanuensis.Text.Composition
import Amanuensis.Text.Runs
import Amanuensis.Url.Domain.Direction
import Amanuensis.Url.Domain.Joining
import Amanuensis.Url.Domain.Mapping
import Amanuensis.Url.Punycode
/-!
# Domain names

A domain name in its ASCII form. The name is mapped character by character
and put into composed form; then each label is judged by itself. A label
beyond ASCII is written in its ASCII form behind a head, and a label that
has that head already must be one that would be written so.
-/


namespace Amanuensis

namespace Url.Domain

/-- A label of a domain name. -/
structure Label where
  /-- The label as it is read. -/
  spoken : List Char
  /-- The label in ASCII. -/
  written : List Char
deriving DecidableEq, Repr

def isAscii (c : Char) : Bool := c.toNat < 128

/-- What labels in the ASCII form of others begin with. -/
def head : List Char := "xn--".toList

/-- How many characters a label may have that is put into ASCII form. -/
def maxSpoken : Nat := 1000

/-- How many characters may follow the head of a label. -/
def maxWritten : Nat := 2000

/-- A text as a label, if the ASCII form of another label is not wrong in
it. -/
def Label.ofText? (s : List Char) : Option Label :=
  if head.isPrefixOf s then
    let written := s.drop head.length
    if !s.all isAscii ∨ written.getLast? = some '-' ∨ maxWritten < written.length then none
    else
      match Punycode.decode? written with
      | none => none
      | some spoken =>
        if !spoken.all isAscii ∧ spoken.all isPlain ∧ Text.composed spoken = spoken then
          some ⟨spoken, s⟩
        else none
  else if s.all isAscii then some ⟨s, s⟩
  else if maxSpoken < s.length then none
  else some ⟨s, head ++ Punycode.encode s⟩

/-- Is the label well-formed by itself? It does not begin with a mark, and
its joiners stand where they may. -/
def Label.isWellFormed (l : Label) : Bool :=
  !(l.spoken.head?.map Text.isMark).getD false && joinersFit [] l.spoken

/-- Are the labels orderly, if any of them is written from right to
left? -/
def areOrderly (labels : List Label) : Bool :=
  !labels.any (fun l => l.spoken.any isFromRight) ||
    labels.all fun l => isOrderly (l.spoken.map direction)

/-- May the character not stand in a domain name? -/
def isForbidden (c : Char) : Bool :=
  c ≤ ' ' || c = '\x7f' || "%#/:<>?@[\\]^|".toList.contains c

/-- The labels of a domain name in ASCII. -/
def labels? (name : List Char) : Option (List (List Char)) :=
  match (mapped? name).map Text.composed with
  | none => none
  | some s =>
    match (Text.splitAt (· = '.') s).mapM Label.ofText? with
    | none => none
    | some labels =>
      if labels.all Label.isWellFormed ∧ areOrderly labels ∧ !s.any isForbidden then
        some (labels.map Label.written)
      else none

end Url.Domain

end Amanuensis
