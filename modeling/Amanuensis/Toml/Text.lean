import Amanuensis.Text.Numeral
import Amanuensis.Toml.Basic
/-!
# Texts in settings documents

The four ways to write a text: between double quotes with escapes, between
single quotes as it stands, and each of them over several lines between
three quotes. A line end in a text of several lines is a line feed, and one
that follows the opening quotes does not count.
-/


namespace Amanuensis

namespace Toml.Reader

/-- A character by its code point in a number of hexadecimal digits. -/
def codePoint? (digits : Nat) (s : List Char) : Option (Char × List Char) :=
  let code := s.take digits
  if code.length = digits ∧ code.all Text.isHexDigit then
    let n := Text.digitsIn 16 code
    if n < 0xD800 ∨ (0xDFFF < n ∧ n < 0x110000) then some (Char.ofNat n, s.drop digits) else none
  else none

/-- What an escape stands for, after its backslash. -/
def escape? : List Char → Option (Char × List Char)
  | 'b' :: rest => some ('\x08', rest)
  | 't' :: rest => some ('\t', rest)
  | 'n' :: rest => some ('\n', rest)
  | 'f' :: rest => some ('\x0c', rest)
  | 'r' :: rest => some ('\r', rest)
  | '"' :: rest => some ('"', rest)
  | '\\' :: rest => some ('\\', rest)
  | 'u' :: rest => codePoint? 4 rest
  | 'U' :: rest => codePoint? 8 rest
  | _ => none

/-! ## Texts on one line -/

/-- The rest of a text between double quotes; `done` is what was read,
backwards. -/
def basicRest : (fuel : Nat) → (done : List Char) → Reader String
  | 0, _, _ => none
  | fuel + 1, done, s =>
    match s with
    | [] => none
    | '"' :: rest => some (String.ofList done.reverse, rest)
    | '\\' :: rest => (escape? rest).bind fun r => basicRest fuel (r.1 :: done) r.2
    | c :: rest => if isPlain c then basicRest fuel (c :: done) rest else none

/-- The rest of a text between single quotes. -/
def literalRest (done : List Char) : Reader String
  | [] => none
  | c :: rest =>
    if c = '\'' then some (String.ofList done.reverse, rest)
    else if isPlain c then literalRest (c :: done) rest
    else none

/-! ## Texts over several lines -/

/-- The text after its first line end, if it starts with one. -/
def dropLineEnd (s : List Char) : List Char := (lineEnd? s).getD s

/-- The end of a text over several lines: three quotes, before which up to
two more belong to the text. -/
def closing (quote : Char) (done s : List Char) : Option (String × List Char) :=
  let count := (s.takeWhile (· = quote)).length
  if 3 ≤ count then
    let extra := min (count - 3) 2
    some (String.ofList (done.reverse ++ List.replicate extra quote), s.drop (extra + 3))
  else none

/-- The rest of a line and the blank lines after it, for a backslash at the
end of a line. -/
def foldLine? (s : List Char) : Option (List Char) :=
  (lineEnd? (skipSpaces s)).map fun rest => skipBlankLines (rest.length + 1) rest

/-- The rest of a text over several lines between double quotes. -/
def longBasicRest : (fuel : Nat) → (done : List Char) → Reader String
  | 0, _, _ => none
  | fuel + 1, done, s =>
    match closing '"' done s with
    | some r => some r
    | none =>
      match lineEnd? s with
      | some rest => longBasicRest fuel ('\n' :: done) rest
      | none =>
        match s with
        | [] => none
        | '\\' :: rest =>
          match escape? rest, foldLine? rest with
          | some r, _ => longBasicRest fuel (r.1 :: done) r.2
          | none, some rest => longBasicRest fuel done rest
          | none, none => none
        | c :: rest => if isPlain c then longBasicRest fuel (c :: done) rest else none

/-- The rest of a text over several lines between single quotes. -/
def longLiteralRest : (fuel : Nat) → (done : List Char) → Reader String
  | 0, _, _ => none
  | fuel + 1, done, s =>
    match closing '\'' done s with
    | some r => some r
    | none =>
      match lineEnd? s with
      | some rest => longLiteralRest fuel ('\n' :: done) rest
      | none =>
        match s with
        | [] => none
        | c :: rest => if isPlain c then longLiteralRest fuel (c :: done) rest else none

/-- A text on one line. -/
def shortText : Reader String
  | '"' :: rest => basicRest (rest.length + 1) [] rest
  | '\'' :: rest => literalRest [] rest
  | _ => none

/-- A text in any of the four ways. -/
def text : Reader String
  | '"' :: '"' :: '"' :: rest => longBasicRest (rest.length + 1) [] (dropLineEnd rest)
  | '\'' :: '\'' :: '\'' :: rest => longLiteralRest (rest.length + 1) [] (dropLineEnd rest)
  | s => shortText s

end Toml.Reader

end Amanuensis
