import Amanuensis.Text.Numeral
import Amanuensis.Toml.Basic
/-!
# Times in settings documents

Dates, times of day and both together, perhaps with an offset. Each is read
with the limits of the calendar and kept in its usual form: a capital T
between date and time, a fraction without trailing zeros. A text that is a
time as a whole is read by `wholeTime?`, with somewhat wider limits.
-/


namespace Amanuensis

namespace Toml.Reader

/-- A number of exactly so many digits, at most a limit. -/
def field (width low high : Nat) : Reader Nat := fun s =>
  let d := s.take width
  let n := Text.digitsIn 10 d
  if d.length = width ∧ d.all Text.isDigit ∧ low ≤ n ∧ n ≤ high then some (n, s.drop width)
  else none

/-- One character. -/
def char (c : Char) : Reader Unit
  | d :: rest => if c = d then some ((), rest) else none
  | [] => none

/-- A number in so many digits. -/
def padded (width n : Nat) : String :=
  let d := toString n
  String.ofList (List.replicate (width - d.length) '0') ++ d

def isLeapYear (y : Nat) : Bool := y % 4 = 0 && (y % 100 != 0 || y % 400 = 0)

/-- The days of a month. -/
def daysIn (year month : Nat) : Nat :=
  if month = 2 then (if isLeapYear year then 29 else 28)
  else if month = 4 ∨ month = 6 ∨ month = 9 ∨ month = 11 then 30
  else 31

def date : Reader String := fun s => do
  let (year, s) ← field 4 0 9999 s
  let (_, s) ← char '-' s
  let (month, s) ← field 2 1 12 s
  let (_, s) ← char '-' s
  let (day, s) ← field 2 1 (daysIn year month) s
  return (padded 4 year ++ "-" ++ padded 2 month ++ "-" ++ padded 2 day, s)

/-- The fraction of a second, of which nine digits count. -/
def secondFraction (s : List Char) : String × List Char :=
  match s with
  | '.' :: rest =>
    let d := rest.takeWhile Text.isDigit
    let shown := ((d.take 9).reverse.dropWhile (· = '0')).reverse
    if d.isEmpty then ("", s)
    else (if shown.isEmpty then "" else "." ++ String.ofList shown, rest.dropWhile Text.isDigit)
  | s => ("", s)

/-- A time of day; its hour is at most `lastHour`. -/
def clock (lastHour : Nat) : Reader String := fun s => do
  let (hour, s) ← field 2 0 lastHour s
  let (_, s) ← char ':' s
  let (minute, s) ← field 2 0 59 s
  let (_, s) ← char ':' s
  let (second, s) ← field 2 0 60 s
  let (fraction, s) := secondFraction s
  return (padded 2 hour ++ ":" ++ padded 2 minute ++ ":" ++ padded 2 second ++ fraction, s)

/-- An offset of hours and minutes, in minutes. -/
def span (lastHour lastMinute : Nat) : Reader Nat := fun s => do
  let (hours, s) ← field 2 0 lastHour s
  let (_, s) ← char ':' s
  let (minutes, s) ← field 2 0 lastMinute s
  return (hours * 60 + minutes, s)

/-- An offset of so many minutes. -/
def offsetText (sign : String) (minutes : Nat) : String :=
  (if minutes = 0 then "+" else sign) ++ padded 2 (minutes / 60) ++ ":" ++ padded 2 (minutes % 60)

/-- The offset from universal time, if there is one. -/
def offset (s : List Char) : String × List Char :=
  let numeric (sign : String) (rest : List Char) : String × List Char :=
    match span 23 59 rest with
    | some (minutes, r) => (offsetText sign minutes, r)
    | none => ("", s)
  match s with
  | 'Z' :: rest => ("Z", rest)
  | 'z' :: rest => ("Z", rest)
  | '+' :: rest => numeric "+" rest
  | '-' :: rest => numeric "-" rest
  | s => ("", s)

/-- The time of day after a date, if there is one. -/
def afterDate (s : List Char) : String × List Char :=
  match s with
  | c :: rest =>
    if c = 'T' ∨ c = 't' ∨ c = ' ' then
      match clock 23 rest with
      | some (t, rest) =>
        let (o, rest) := offset rest
        ("T" ++ t ++ o, rest)
      | none => ("", s)
    else ("", s)
  | [] => ("", s)

/-- A date, a time or both. -/
def time : Reader String := fun s =>
  match date s with
  | some (d, rest) =>
    let (t, rest) := afterDate rest
    some (d ++ t, rest)
  | none => clock 23 s

/-! ## Whole texts -/

/-- An offset that is the whole text. Its hours and minutes are any that do
not add up to more than a day. -/
def wholeOffset? : List Char → Option String
  | [] => some ""
  | ['Z'] => some "Z"
  | ['z'] => some "Z"
  | sign :: rest =>
    if sign = '+' ∨ sign = '-' then
      match span 99 99 rest with
      | some (minutes, []) =>
        if minutes ≤ 1440 then some (offsetText (String.singleton sign) minutes) else none
      | _ => none
    else none

/-- A text that is a date, a time or both as a whole, in its usual form. The
hour may also be twenty-four. -/
def wholeTime? (s : List Char) : Option String :=
  match s with
  | _ :: _ :: ':' :: _ =>
    match clock 24 s with
    | some (t, []) => some t
    | _ => none
  | s =>
    match date s with
    | some (d, []) => some d
    | some (d, c :: rest) =>
      if c = 'T' ∨ c = 't' ∨ c = ' ' then do
        let (t, rest) ← clock 24 rest
        return d ++ "T" ++ t ++ (← wholeOffset? rest)
      else none
    | none => none

end Toml.Reader

end Amanuensis
