import Amanuensis.Json.Basic
/-!
# Writing JSON

`Json.compact` writes a value without blanks, `Json.pretty` over several
lines with an indent of two. Members are written in the order they have;
a normal value has them in the order of their keys. A double that is no
JSON number (a NaN or an infinity) is written as `null`.
-/


namespace Amanuensis

namespace Json

/-- A hexadecimal digit in lower case. -/
def hexDigit (n : Nat) : Char := if n < 10 then Char.ofNat (48 + n) else Char.ofNat (87 + n)

/-- A character as it stands in a string: the quote, the backslash and the
controls behind a backslash, all others as themselves. -/
def escapeChar (c : Char) : List Char :=
  match c with
  | '"' => ['\\', '"']
  | '\\' => ['\\', '\\']
  | '\x08' => ['\\', 'b']
  | '\x0c' => ['\\', 'f']
  | '\n' => ['\\', 'n']
  | '\r' => ['\\', 'r']
  | '\t' => ['\\', 't']
  | c =>
    if c.toNat < 32 then ['\\', 'u', '0', '0', hexDigit (c.toNat / 16), hexDigit (c.toNat % 16)]
    else [c]

/-- A text as a JSON string. -/
def quoted (s : String) : String := String.ofList ('"' :: s.toList.flatMap escapeChar ++ ['"'])

/-- A number as text. -/
def Number.text : Number → String
  | .int n => toString n
  | .float x => if x.isFinite then x.exponentText else "null"

/-- A value that holds no others, as text. -/
def leafText : Json → String
  | .bool true => "true"
  | .bool false => "false"
  | .num n => n.text
  | .str s => quoted s
  | _ => "null"

mutual

/-- The value without blanks. -/
def compact : Json → String
  | .arr [] => "[]"
  | .arr (j :: rest) => "[" ++ compact j ++ compactItems rest ++ "]"
  | .obj [] => "\x7b\x7d"
  | .obj ((k, v) :: rest) =>
    "\x7b" ++ quoted k ++ ":" ++ compact v ++ compactMembers rest ++ "\x7d"
  | j => leafText j

/-- The items after the first. -/
def compactItems : List Json → String
  | [] => ""
  | j :: rest => "," ++ compact j ++ compactItems rest

/-- The members after the first. -/
def compactMembers : List (String × Json) → String
  | [] => ""
  | (k, v) :: rest => "," ++ quoted k ++ ":" ++ compact v ++ compactMembers rest

end

/-- A line break and the indent of a depth. -/
def newline (depth : Nat) : String := String.ofList ('\n' :: List.replicate (2 * depth) ' ')

mutual

/-- The value over several lines, at a depth. -/
def prettyAt (depth : Nat) : Json → String
  | .arr [] => "[]"
  | .arr (j :: rest) =>
    "[" ++ newline (depth + 1) ++ prettyAt (depth + 1) j ++ prettyItems (depth + 1) rest ++
      newline depth ++ "]"
  | .obj [] => "\x7b\x7d"
  | .obj ((k, v) :: rest) =>
    "\x7b" ++ newline (depth + 1) ++ quoted k ++ ": " ++ prettyAt (depth + 1) v ++
      prettyMembers (depth + 1) rest ++ newline depth ++ "\x7d"
  | j => leafText j

/-- The items after the first. -/
def prettyItems (depth : Nat) : List Json → String
  | [] => ""
  | j :: rest => "," ++ newline depth ++ prettyAt depth j ++ prettyItems depth rest

/-- The members after the first. -/
def prettyMembers (depth : Nat) : List (String × Json) → String
  | [] => ""
  | (k, v) :: rest =>
    "," ++ newline depth ++ quoted k ++ ": " ++ prettyAt depth v ++ prettyMembers depth rest

end

/-- The value over several lines. -/
def pretty (j : Json) : String := prettyAt 0 j

end Json

end Amanuensis
