import Amanuensis.Text.Numeral
import Amanuensis.Toml.Basic
/-!
# Numbers in settings documents

Integers in four bases and doubles. Between two digits an underscore may
stand, and a decimal number of several digits does not start with a zero.
-/


namespace Amanuensis

namespace Toml.Reader

/-- Digits in a class with single underscores between them, without the
underscores; the first digit has been read, `done` backwards. -/
def moreDigits (isDigit : Char → Bool) (done : List Char) : List Char → List Char × List Char
  | '_' :: c :: rest =>
    if isDigit c then moreDigits isDigit (c :: done) rest else (done.reverse, '_' :: c :: rest)
  | c :: rest =>
    if isDigit c then moreDigits isDigit (c :: done) rest else (done.reverse, c :: rest)
  | [] => (done.reverse, [])

/-- One or more digits in a class. -/
def digits (isDigit : Char → Bool) : Reader (List Char)
  | c :: rest => if isDigit c then some (moreDigits isDigit [c] rest) else none
  | [] => none

/-- The digits of a decimal integer: a zero alone, or digits that do not
start with one. -/
def wholeDigits : Reader (List Char)
  | '0' :: rest => some (['0'], rest)
  | s => digits Text.isDigit s

/-- A decimal integer with its sign. -/
def decimalInteger : Reader (Bool × List Char) := fun s =>
  let (negative, rest) := Text.signed s
  (wholeDigits rest).map fun r => ((negative, r.1), r.2)

/-- An exponent with its sign. -/
def exponent : Reader Int
  | c :: rest =>
    if c = 'e' ∨ c = 'E' then
      let (negative, rest) := Text.signed rest
      (digits Text.isDigit rest).map fun r =>
        let n : Int := Text.digitsIn 10 r.1
        (if negative then -n else n, r.2)
    else none
  | [] => none

/-- A fraction with its point. -/
def fraction : Reader (List Char)
  | '.' :: rest => digits Text.isDigit rest
  | _ => none

/-- The double with these parts. One that is too large is none, unless it
is negative. -/
def floatOf (negative : Bool) (whole fraction : List Char) (e : Int) : Option Binary64 :=
  let x := Binary64.ofDecimal negative
    ⟨Text.digitsIn 10 (whole ++ fraction), e - (fraction.length : Int)⟩
  if x = .infinity then none else some x

/-- A double with a fraction, an exponent or both. -/
def plainFloat : Reader Binary64 := fun s =>
  (decimalInteger s).bind fun ((negative, whole), rest) =>
    match fraction rest, exponent rest with
    | some (f, rest), _ =>
      let (e, rest) := (exponent rest).getD (0, rest)
      (floatOf negative whole f e).map fun x => (x, rest)
    | none, some (e, rest) => (floatOf negative whole [] e).map fun x => (x, rest)
    | none, none => none

/-- The words for infinity and for no number. -/
def wordFloat : Reader Binary64 := fun s =>
  let (negative, rest) := Text.signed s
  let withSign (x : Binary64) : Binary64 := if negative then x.neg else x
  match rest with
  | 'i' :: 'n' :: 'f' :: rest => some (withSign .infinity, rest)
  | 'n' :: 'a' :: 'n' :: rest => some (withSign .nan, rest)
  | _ => none

def float : Reader Binary64 := fun s => plainFloat s <|> wordFloat s

/-- An integer, if it fits. -/
def fitting (n : Int) (rest : List Char) : Option (Int × List Char) :=
  if Text.fitsWord n then some (n, rest) else none

/-- An integer in another base than ten. -/
def based (base : Nat) (isDigit : Char → Bool) : Reader Int := fun s =>
  (digits isDigit s).bind fun r => fitting (Text.digitsIn base r.1) r.2

def integer : Reader Int
  | '0' :: 'x' :: rest => based 16 Text.isHexDigit rest
  | '0' :: 'o' :: rest => based 8 (fun c => '0' ≤ c && c ≤ '7') rest
  | '0' :: 'b' :: rest => based 2 (fun c => c = '0' || c = '1') rest
  | s =>
    (decimalInteger s).bind fun ((negative, whole), rest) =>
      let n : Int := Text.digitsIn 10 whole
      fitting (if negative then -n else n) rest

end Toml.Reader

end Amanuensis
