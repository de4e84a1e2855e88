import Amanuensis.Json.Token
/-!
# Reading JSON

The second half of reading a JSON text. `Draft.ofTokens` builds the tree
of a text from its tokens, one token at a time over a stack of what is
open. `Draft.read` makes a value of the parts of that tree that are asked
for: an `Outline` names them, and members outside it are skipped however
deep they are nested and whatever numbers they hold. What is asked for
must denote something: its numbers are in range, its surrogates come in
pairs, and it is nested less than 128 levels deep.

`Json.read?` reads a text as a whole into a normal value, `Json.readAs?`
by an outline into a value whose repeated keys still show.
-/


namespace Amanuensis

namespace Json

/-- A JSON text as a tree, nothing in it interpreted. -/
inductive Draft where
  | null
  | bool (b : Bool)
  | num (n : Numeral)
  | str (pieces : List Piece)
  | arr (items : List Draft)
  | obj (members : List (List Piece × Draft))
deriving Repr, Inhabited

/-! ## From tokens to a tree -/

/-- Something open: the parts it has so far, backwards. -/
inductive Frame where
  | items (done : List Draft)
  | members (done : List (List Piece × Draft))
  /-- An object whose next member has its key already. -/
  | member (done : List (List Piece × Draft)) (key : List Piece)

/-- What may come next. -/
inductive Want where
  | value
  | valueOrClose
  | key
  | keyOrClose
  | colon
  | commaOrClose
  | nothing
deriving DecidableEq

/-- A tree under construction: what is open, innermost first, and what has
been completed at the outermost level. -/
structure Build where
  opened : List Frame
  want : Want
  result : Option Draft

/-- A value has been completed. -/
def Build.put (b : Build) (v : Draft) : Option Build :=
  match b.opened with
  | [] => some ⟨[], .nothing, some v⟩
  | .items done :: rest => some ⟨.items (v :: done) :: rest, .commaOrClose, none⟩
  | .member done key :: rest => some ⟨.members ((key, v) :: done) :: rest, .commaOrClose, none⟩
  | .members _ :: _ => none

/-- A closing bracket: what was open innermost is a value. -/
def Build.close (b : Build) (t : Token) : Option Build :=
  match t, b.opened with
  | .closeArr, .items done :: rest => Build.put ⟨rest, .nothing, none⟩ (.arr done.reverse)
  | .closeObj, .members done :: rest => Build.put ⟨rest, .nothing, none⟩ (.obj done.reverse)
  | _, _ => none

/-- A token where a value may stand. -/
def Build.start (b : Build) (t : Token) : Option Build :=
  match t with
  | .openArr => some ⟨.items [] :: b.opened, .valueOrClose, none⟩
  | .openObj => some ⟨.members [] :: b.opened, .keyOrClose, none⟩
  | .null => b.put .null
  | .bool v => b.put (.bool v)
  | .num n => b.put (.num n)
  | .str s => b.put (.str s)
  | _ => none

/-- A token where a key may stand. -/
def Build.key (b : Build) (t : Token) : Option Build :=
  match t, b.opened with
  | .str s, .members done :: rest => some ⟨.member done s :: rest, .colon, none⟩
  | _, _ => none

/-- A token after a part of something open. -/
def Build.next (b : Build) (t : Token) : Option Build :=
  match t, b.opened with
  | .comma, .items _ :: _ => some ⟨b.opened, .value, none⟩
  | .comma, .members _ :: _ => some ⟨b.opened, .key, none⟩
  | t, _ => b.close t

/-- One token. -/
def Build.step (b : Build) (t : Token) : Option Build :=
  match b.want with
  | .value => b.start t
  | .valueOrClose => if t = .closeArr then b.close t else b.start t
  | .key => b.key t
  | .keyOrClose => if t = .closeObj then b.close t else b.key t
  | .colon => if t = .colon then some ⟨b.opened, .value, none⟩ else none
  | .commaOrClose => b.next t
  | .nothing => none

/-- All tokens. -/
def Build.steps (b : Build) : List Token → Option Build
  | [] => some b
  | t :: rest =>
    match b.step t with
    | some b => b.steps rest
    | none => none

/-- The tree of a text, from its tokens. -/
def Draft.ofTokens (ts : List Token) : Option Draft :=
  match Build.steps ⟨[], .value, none⟩ ts with
  | some ⟨[], .nothing, result⟩ => result
  | _ => none

/-- The tree of a text. -/
def Draft.parse? (s : List Char) : Option Draft :=
  match tokens s with
  | some ts => Draft.ofTokens ts
  | none => none

/-! ## What a part denotes -/

/-- The text that pieces denote. Two escapes that are the halves of a
surrogate pair are one character; a half alone denotes nothing. -/
def textOf : List Piece → Option (List Char)
  | [] => some []
  | .char c :: rest => (textOf rest).map (c :: ·)
  | .code n :: rest =>
    if n < 0xD800 ∨ 0xDFFF < n then (textOf rest).map (Char.ofNat n :: ·)
    else
      match rest with
      | .code m :: rest =>
        if n < 0xDC00 ∧ 0xDC00 ≤ m ∧ m ≤ 0xDFFF then
          (textOf rest).map (Char.ofNat (0x10000 + (n - 0xD800) * 0x400 + (m - 0xDC00)) :: ·)
        else none
      | _ => none

/-- The string that pieces denote. -/
def stringOf (pieces : List Piece) : Option String := (textOf pieces).map String.ofList

/-- The value of a digit. -/
def digitValue (c : Char) : Nat := c.toNat - 48

/-- Digits appended to a number while it fits 64 bits; the digits that are
left over. -/
def gather (n : Nat) : List Char → Nat × List Char
  | [] => (n, [])
  | c :: rest =>
    if 10 * n + digitValue c < UInt64.size then gather (10 * n + digitValue c) rest
    else (n, c :: rest)

/-- The number that digits write. -/
def digitsValue (digits : List Char) : Nat :=
  digits.foldl (fun n c => 10 * n + digitValue c) 0

/-- `n * 10 ^ e` as a double: `n` is rounded first, and scaled by rounded
divisions or one rounded multiplication. Too large a number is none. -/
def scaled? (negative : Bool) (n : Nat) (e : Int) : Option Binary64 :=
  let x := Binary64.ofNat n
  let power (k : Nat) := Binary64.ofNat (Nat.pow 10 k)
  let signed (x : Binary64) := if negative then x.neg else x
  if n = 0 then some (signed x)
  else if 308 < e then none
  else if 0 ≤ e then
    let y := x.mul (power e.toNat)
    if y.isFinite then some (signed y) else none
  else
    let k := (-e).toNat
    if k ≤ 308 then some (signed (x.div (power k)))
    else if k ≤ 616 then some (signed ((x.div (power 308)).div (power (k - 308))))
    else some (signed (Binary64.ofNat 0))

/-- The number that a numeral denotes, if it is in range. An integer that
fits 64 bits is itself; all other numerals are doubles, of which the first
digits count, as many as 64 bits hold. -/
def Numeral.number? (s : Numeral) : Option Number :=
  let (n, dropped) := gather 0 s.whole
  if !s.fractional && dropped.isEmpty && (!s.negative || (0 < n && n ≤ Nat.pow 2 63)) then
    some (.int (if s.negative then -(n : Int) else n))
  else
    let (n, fractionLeft) := gather n s.fraction
    let places : Int := dropped.length - (s.fraction.length - fractionLeft.length : Nat)
    let e : Int :=
      match s.exponent with
      | none => 0
      | some (negative, digits) => if negative then -digitsValue digits else digitsValue digits
    (scaled? s.negative n (places + e)).map .float

/-! ## What is asked for -/

/-- The parts of a text that are asked for. -/
inductive Outline where
  /-- Everything. -/
  | whole
  /-- The members with these keys. The same parts may be given as an array,
  in the order of the keys. -/
  | record (members : List (String × Outline))
  /-- The same of every item. -/
  | each (item : Outline)
deriving Inhabited

/-- What is asked for of the member with a key. -/
def Outline.member (key : String) : List (String × Outline) → Option Outline
  | [] => none
  | (k, o) :: rest => if key = k then some o else member key rest

mutual

/-- The parts of a tree that are asked for, nested less than `depth` levels
deep. -/
def Draft.read (depth : Nat) (o : Outline) : Draft → Option Json
  | .null => some .null
  | .bool b => some (.bool b)
  | .num n => n.number?.map .num
  | .str s => (stringOf s).map .str
  | .arr items =>
    if depth < 2 then none
    else
      match o with
      | .each o => (readItems (depth - 1) o [] items).map .arr
      | .record members => (readItems (depth - 1) .whole (members.map (·.2)) items).map .arr
      | .whole => (readItems (depth - 1) .whole [] items).map .arr
  | .obj members =>
    if depth < 2 then none
    else
      match o with
      | .record asked => (readMembers (depth - 1) (some asked) members).map .obj
      | _ => (readMembers (depth - 1) none members).map .obj

/-- The parts of items that are asked for: of the first ones by a list, of
the others the same. -/
def readItems (depth : Nat) (other : Outline) (first : List Outline) :
    List Draft → Option (List Json)
  | [] => some []
  | d :: rest =>
    match d.read depth (first.head?.getD other), readItems depth other first.tail rest with
    | some j, some js => some (j :: js)
    | _, _ => none

/-- The members that are asked for; all if there is no list of them. -/
def readMembers (depth : Nat) (asked : Option (List (String × Outline))) :
    List (List Piece × Draft) → Option (List (String × Json))
  | [] => some []
  | (key, d) :: rest =>
    match stringOf key, readMembers depth asked rest with
    | some k, some ms =>
      match asked with
      | none => (d.read depth .whole).map fun j => (k, j) :: ms
      | some asked =>
        match Outline.member k asked with
        | some o => (d.read depth o).map fun j => (k, j) :: ms
        | none => some ms
    | _, _ => none

end

/-- The levels of nesting that are refused. -/
def maxDepth : Nat := 128

/-- The parts of a text that are asked for, members as they are written. -/
def readAs? (o : Outline) (s : String) : Option Json :=
  match Draft.parse? s.toList with
  | some d => d.read maxDepth o
  | none => none

/-- The value of a text. -/
def read? (s : String) : Option Json := (readAs? .whole s).map normal

end Json

end Amanuensis
