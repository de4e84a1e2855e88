import Amanuensis.Json.Basic
/-!
# JSON tokens

The first half of reading a JSON text: `tokens` cuts it into brackets,
punctuation, words, numerals and strings, by a scanner that looks at one
character at a time. A numeral is kept as its digits and a string as its
units, because a part of a text that nobody asks for must be well formed
but need not denote anything: its numbers may be out of range, and its
strings may hold half of a surrogate pair.
-/


namespace Amanuensis

namespace Json

/-- A numeral, as its digits. -/
structure Numeral where
  negative : Bool
  whole : List Char
  fraction : List Char
  /-- The sign and the digits of the exponent, if one is written. -/
  exponent : Option (Bool × List Char)
  /-- Is there a point or an exponent? -/
  fractional : Bool
deriving DecidableEq, Repr

/-- What a string holds: a character, or a code unit written as an escape
with four digits. -/
inductive Piece where
  | char (c : Char)
  | code (n : Nat)
deriving DecidableEq, Repr

inductive Token where
  | openArr
  | closeArr
  | openObj
  | closeObj
  | colon
  | comma
  | null
  | bool (b : Bool)
  | num (n : Numeral)
  | str (pieces : List Piece)
deriving DecidableEq, Repr

/-! ## Numerals and words -/

def isDigit (c : Char) : Bool := '0' ≤ c && c ≤ '9'

/-- The exponent of a numeral: its sign and its digits. -/
def exponent? (s : List Char) : Option (Bool × List Char) :=
  let (negative, digits) :=
    match s with
    | '-' :: rest => (true, rest)
    | '+' :: rest => (false, rest)
    | _ => (false, s)
  if digits.isEmpty || !digits.all isDigit then none else some (negative, digits)

/-- The numeral that a run of characters writes. A leading zero stands
alone, and a point has digits on both sides. -/
def numeral? (s : List Char) : Option Numeral :=
  let (negative, s) :=
    match s with
    | '-' :: rest => (true, rest)
    | _ => (false, s)
  let whole := s.takeWhile isDigit
  if whole.isEmpty || (whole.head? == some '0' && whole.length ≠ 1) then none
  else
    let (pointed, fraction, s) :=
      match s.dropWhile isDigit with
      | '.' :: rest => (true, rest.takeWhile isDigit, rest.dropWhile isDigit)
      | s => (false, [], s)
    if pointed && fraction.isEmpty then none
    else
      match s with
      | [] => some ⟨negative, whole, fraction, none, pointed⟩
      | c :: rest =>
        if c = 'e' ∨ c = 'E' then
          match exponent? rest with
          | some e => some ⟨negative, whole, fraction, some e, true⟩
          | none => none
        else none

/-- The token that a run of word characters writes. -/
def runToken? (s : List Char) : Option Token :=
  if s = "null".toList then some .null
  else if s = "true".toList then some (.bool true)
  else if s = "false".toList then some (.bool false)
  else (numeral? s).map .num

/-! ## The scanner -/

/-- Where the scanner stands. What is under way is held backwards. -/
inductive Scan where
  | between
  | run (chars : List Char)
  | text (pieces : List Piece)
  | escape (pieces : List Piece)
  /-- Inside an escape with `left + 1` digits to come. -/
  | hex (pieces : List Piece) (left value : Nat)

/-- May the character stand in a word or a numeral? -/
def isRunChar (c : Char) : Bool := c.isAlphanum || c == '+' || c == '-' || c == '.'

/-- The value of a hexadecimal digit. -/
def hexValue? (c : Char) : Option Nat :=
  if '0' ≤ c ∧ c ≤ '9' then some (c.toNat - 48)
  else if 'a' ≤ c ∧ c ≤ 'f' then some (c.toNat - 87)
  else if 'A' ≤ c ∧ c ≤ 'F' then some (c.toNat - 55)
  else none

/-- The character that a one-letter escape stands for. -/
def escaped? : Char → Option Char
  | '"' => some '"'
  | '\\' => some '\\'
  | '/' => some '/'
  | 'b' => some '\x08'
  | 'f' => some '\x0c'
  | 'n' => some '\n'
  | 'r' => some '\r'
  | 't' => some '\t'
  | _ => none

/-- A character that begins something: where it leads and the token it
completes. -/
def scanStart (c : Char) : Option (Scan × List Token) :=
  match c with
  | ' ' | '\t' | '\n' | '\r' => some (.between, [])
  | '"' => some (.text [], [])
  | '[' => some (.between, [.openArr])
  | ']' => some (.between, [.closeArr])
  | '\x7b' => some (.between, [.openObj])
  | '\x7d' => some (.between, [.closeObj])
  | ':' => some (.between, [.colon])
  | ',' => some (.between, [.comma])
  | c => if isRunChar c then some (.run [c], []) else none

/-- One character: where the scanner goes and the tokens it completes. -/
def scan : Scan → Char → Option (Scan × List Token)
  | .between, c => scanStart c
  | .run chars, c =>
    if isRunChar c then some (.run (c :: chars), [])
    else
      match runToken? chars.reverse, scanStart c with
      | some t, some (next, ts) => some (next, t :: ts)
      | _, _ => none
  | .text pieces, c =>
    if c = '"' then some (.between, [.str pieces.reverse])
    else if c = '\\' then some (.escape pieces, [])
    else if c.toNat < 32 then none
    else some (.text (.char c :: pieces), [])
  | .escape pieces, c =>
    if c = 'u' then some (.hex pieces 3 0, [])
    else (escaped? c).map fun e => (.text (.char e :: pieces), [])
  | .hex pieces left value, c =>
    match hexValue? c with
    | none => none
    | some d =>
      match left with
      | 0 => some (.text (.code (16 * value + d) :: pieces), [])
      | left + 1 => some (.hex pieces left (16 * value + d), [])

/-- The tokens of a text, the scanner standing somewhere in it; `done` is
the tokens so far, backwards. -/
def tokensFrom : Scan → (done : List Token) → List Char → Option (List Token)
  | .between, done, [] => some done.reverse
  | .run chars, done, [] => (runToken? chars.reverse).map fun t => (t :: done).reverse
  | _, _, [] => none
  | state, done, c :: rest =>
    match scan state c with
    | none => none
    | some (next, ts) => tokensFrom next (ts.reverse ++ done) rest

/-- The tokens of a text, if it is made of tokens. -/
def tokens (s : List Char) : Option (List Token) := tokensFrom .between [] s

end Json

end Amanuensis
