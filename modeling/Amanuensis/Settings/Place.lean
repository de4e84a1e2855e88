import Amanuensis.Settings.Value
/-!
# Places of values

A key of the outermost level may lead deeper: dots part the keys of tables
within tables, and an integer in brackets is the place of an item in a list,
counted from the end if it is negative. `steps` reads a key, and `Value.put`
sets a value at the end of its steps. What stands on the way and is no table
or list gives way to one, and a list is filled up with nothing.
-/


namespace Amanuensis

namespace Settings

/-- A step from a value to a part of it. -/
inductive Step where
  | key (name : String)
  | item (index : Int)
deriving DecidableEq, Repr

/-! ## Reading -/

/-- May the character stand in a name on the way? -/
def isKeyChar (c : Char) : Bool :=
  ('a' ≤ c && c ≤ 'z') || ('A' ≤ c && c ≤ 'Z') || ('0' ≤ c && c ≤ '9') ||
    c = '_' || c = '-' || c = ' '

/-- An index and what follows its closing bracket. Blanks may stand around
the index, and it fits into 64 bits. -/
def index? (s : List Char) : Option (Int × List Char) :=
  let isSpace (c : Char) : Bool := c = ' ' || c = '\t'
  let s := s.dropWhile isSpace
  let (negative, s) :=
    match s with
    | '-' :: rest => (true, rest)
    | s => (false, s)
  let digits := s.takeWhile Text.isDigit
  let n := Text.digitsIn 10 digits
  match (s.dropWhile Text.isDigit).dropWhile isSpace with
  | ']' :: rest =>
    if digits.isEmpty ∨ (if negative then Value.maxInteger + 1 else Value.maxInteger) < n then none
    else some (if negative then -n else n, rest)
  | _ => none

/-- The steps after the first name; the fuel is the length of the text. -/
def furtherSteps : (fuel : Nat) → List Char → Option (List Step)
  | _, [] => some []
  | fuel + 1, '.' :: rest =>
    let name := rest.takeWhile isKeyChar
    if name.isEmpty then none
    else (furtherSteps fuel (rest.dropWhile isKeyChar)).map (.key (String.ofList name) :: ·)
  | fuel + 1, '[' :: rest =>
    (index? rest).bind fun r => (furtherSteps fuel r.2).map (.item r.1 :: ·)
  | _, _ => none

/-- The steps of a key. A key that does not read as steps is one step. -/
def steps (key : String) : List Step :=
  let s := key.toList
  let name := s.takeWhile isKeyChar
  match furtherSteps s.length (s.dropWhile isKeyChar) with
  | some rest => if name.isEmpty then [.key key] else .key (String.ofList name) :: rest
  | none => [.key key]

/-! ## Setting -/

/-- Items among which there is one at an index, and its place. Items that
are missing are added at the end, or for an index from the end in front. -/
def fillUp (items : List Value) (index : Int) : List Value × Nat :=
  let place := if index < 0 then items.length + index else index
  if place < 0 then (List.replicate place.natAbs default ++ items, 0)
  else (items ++ List.replicate (place.toNat + 1 - items.length) default, place.toNat)

/-- The value that stands in the place of `old` when `v` is set at the end
of some steps from there. At a key `v` is merged into what the key holds; an
item is replaced. -/
def Value.put (v : Value) : List Step → (old : Value) → Value
  | [], _ => v
  | [.key k], old =>
    let (es, origin) := old.asTable
    .table (setEntry k (mergedWith (es.lookup k) v) es) origin
  | .key k :: rest, old =>
    let (es, origin) := old.asTable
    .table (setEntry k (v.put rest ((es.lookup k).getD default)) es) origin
  | .item i :: rest, old =>
    let (items, origin) := old.asList
    let (items, place) := fillUp items i
    .arr (items.modify place (v.put rest)) origin

end Settings

end Amanuensis
