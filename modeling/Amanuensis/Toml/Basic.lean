import Amanuensis.Binary64.Basic
/-!
# Settings documents

The values of a TOML document: texts, numbers, truth values, times, lists
and tables. A table is the list of its entries with distinct keys.
-/


namespace Amanuensis

/-- A value of a document. -/
inductive Toml where
  | str (s : String)
  | int (n : Int)
  | float (x : Binary64)
  | bool (b : Bool)
  /-- A date or a time, in its usual form. -/
  | time (text : String)
  | arr (items : List Toml)
  | table (entries : List (String × Toml))
deriving Repr, Inhabited

namespace Toml

/-- How deep lists and tables may stand in each other, and how many parts a
key may have. -/
def maxDepth : Nat := 79

/-- What reads a part at the start of a text: the part and the text after
it. -/
abbrev Reader (α : Type) := List Char → Option (α × List Char)

/-- Is the character a blank within a line? -/
def isSpace (c : Char) : Bool := c = ' ' || c = '\t'

def skipSpaces (s : List Char) : List Char := s.dropWhile isSpace

/-- May the character stand in a comment or unescaped in a text? -/
def isPlain (c : Char) : Bool := c = '\t' || ('\x20' ≤ c && c ≠ '\x7f')

/-- The text after the end of a line, if it is at one. -/
def lineEnd? : List Char → Option (List Char)
  | '\n' :: rest => some rest
  | '\r' :: '\n' :: rest => some rest
  | _ => none

/-- The text after a comment, if it is at one. -/
def skipComment : List Char → List Char
  | '#' :: rest => rest.dropWhile isPlain
  | s => s

/-- What is left after the rest of a line, which may hold blanks and a
comment. -/
def endLine? (s : List Char) : Option (List Char) :=
  match skipComment (skipSpaces s) with
  | [] => some []
  | rest => lineEnd? rest

/-- What is left after blanks and ends of lines. -/
def skipBlankLines : (fuel : Nat) → List Char → List Char
  | 0, s => s
  | fuel + 1, s =>
    let rest := skipSpaces s
    match lineEnd? rest with
    | some rest => skipBlankLines fuel rest
    | none => rest

/-- What is left after blanks, comments and ends of lines. -/
def skipLines : (fuel : Nat) → List Char → List Char
  | 0, s => s
  | fuel + 1, s =>
    let rest := skipComment (skipSpaces s)
    match lineEnd? rest with
    | some rest => skipLines fuel rest
    | none => rest

end Toml

end Amanuensis
