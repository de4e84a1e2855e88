import Amanuensis.Toml.Number
import Amanuensis.Toml.Table
import Amanuensis.Toml.Text
import Amanuensis.Toml.Time
/-!
# Reading settings documents

A document is a list of lines: entries, and headers that open sections.
`Toml.read?` reads one as a table, or as nothing where it is malformed,
defines something twice or goes too deep.
-/


namespace Amanuensis

namespace Toml.Reader

/-! ## Keys -/

/-- May the character stand in a key without quotes? -/
def isBare (c : Char) : Bool :=
  Text.isDigit c || ('a' ≤ c && c ≤ 'z') || ('A' ≤ c && c ≤ 'Z') || c = '-' || c = '_'

/-- One part of a key. -/
def keyPart : Reader String := fun s =>
  match s with
  | '"' :: _ => shortText s
  | '\'' :: _ => shortText s
  | s =>
    let bare := s.takeWhile isBare
    if bare.isEmpty then none else some (String.ofList bare, s.dropWhile isBare)

/-- The further parts of a dotted key; `done` are the parts before the last
one, backwards. -/
def moreKey : (fuel : Nat) → (done : List String) → (last : String) →
    Reader (List String × String)
  | 0, _, _, _ => none
  | fuel + 1, done, last, s =>
    match skipSpaces s with
    | '.' :: rest =>
      (keyPart (skipSpaces rest)).bind fun r => moreKey fuel (last :: done) r.1 r.2
    | rest => some ((done.reverse, last), rest)

/-- A dotted key: its path and its last part, with the blanks around. -/
def key : Reader (List String × String) := fun s =>
  (keyPart (skipSpaces s)).bind fun r =>
    (moreKey (s.length + 1) [] r.1 r.2).filter fun k => k.1.1.length < maxDepth

/-! ## Values -/

/-- A truth value, a time or a number. -/
def scalar : Reader Toml := fun s =>
  match s with
  | 't' :: 'r' :: 'u' :: 'e' :: rest => some (.bool true, rest)
  | 'f' :: 'a' :: 'l' :: 's' :: 'e' :: rest => some (.bool false, rest)
  | s =>
    ((time s).map fun r => (.time r.1, r.2)) <|> ((float s).map fun r => (.float r.1, r.2)) <|>
      ((integer s).map fun r => (.int r.1, r.2))

mutual

/-- A value. Lists and tables may stand in each other up to `room` deep. -/
def value : (fuel room : Nat) → Reader Toml
  | 0, _, _ => none
  | fuel + 1, room, s =>
    match s with
    | '"' :: _ => (text s).map fun r => (.str r.1, r.2)
    | '\'' :: _ => (text s).map fun r => (.str r.1, r.2)
    | '[' :: rest =>
      match room with
      | 0 => none
      | room + 1 => (items fuel room [] rest).map fun r => (.arr r.1, r.2)
    | '\x7b' :: rest =>
      match room, skipSpaces rest with
      | 0, _ => none
      | _ + 1, '\x7d' :: rest => some (.table [], rest)
      | room + 1, rest =>
        (pairs fuel room [] rest).bind fun r =>
          (Entries.putAll [] r.1).map fun es => (.table (finishEntries es), r.2)
    | s => scalar s

/-- The items of a list up to its closing bracket; `done` backwards. -/
def items : (fuel room : Nat) → (done : List Toml) → Reader (List Toml)
  | 0, _, _, _ => none
  | fuel + 1, room, done, s =>
    match skipLines (s.length + 1) s with
    | ']' :: rest => some (done.reverse, rest)
    | rest =>
      (value fuel room rest).bind fun r =>
        match skipLines (r.2.length + 1) r.2 with
        | ',' :: rest => items fuel room (r.1 :: done) rest
        | ']' :: rest => some ((r.1 :: done).reverse, rest)
        | _ => none

/-- The entries of a table on one line up to its closing brace; `done`
backwards. -/
def pairs : (fuel room : Nat) → (done : List (List String × String × Toml)) →
    Reader (List (List String × String × Toml))
  | 0, _, _, _ => none
  | fuel + 1, room, done, s =>
    (entry fuel room s).bind fun r =>
      match skipSpaces r.2 with
      | ',' :: rest => pairs fuel room (r.1 :: done) rest
      | '\x7d' :: rest => some ((r.1 :: done).reverse, rest)
      | _ => none

/-- An entry: a key and its value. -/
def entry : (fuel room : Nat) → Reader (List String × String × Toml)
  | 0, _, _ => none
  | fuel + 1, room, s =>
    (key s).bind fun k =>
      match k.2 with
      | '=' :: rest => (value fuel room (skipSpaces rest)).map fun v => ((k.1.1, k.1.2, v.1), v.2)
      | _ => none

end

/-! ## Lines -/

/-- What a line says. -/
inductive Line where
  | nothing
  | entry (path : List String) (key : String) (v : Toml)
  /-- A header, perhaps of one of several tables. -/
  | header (several : Bool) (path : List String) (key : String)

/-- A header, after its first bracket. -/
def header : Reader Line := fun s =>
  let (several, s) :=
    match s with
    | '[' :: rest => (true, rest)
    | s => (false, s)
  (key s).bind fun k =>
    match several, k.2 with
    | false, ']' :: rest => some (.header false k.1.1 k.1.2, rest)
    | true, ']' :: ']' :: rest => some (.header true k.1.1 k.1.2, rest)
    | _, _ => none

/-- A line and what follows it. -/
def line : Reader Line := fun s =>
  match skipSpaces s with
  | '[' :: rest => (header rest).bind fun r => (endLine? r.2).map fun rest => (r.1, rest)
  | '#' :: rest => (endLine? ('#' :: rest)).map fun rest => (.nothing, rest)
  | [] => some (.nothing, [])
  | c :: rest =>
    if c = '\n' ∨ c = '\r' then (lineEnd? (c :: rest)).map fun rest => (.nothing, rest)
    else
      (entry (rest.length + 2) maxDepth (c :: rest)).bind fun r =>
        (endLine? r.2).map fun rest => (.entry r.1.1 r.1.2.1 r.1.2.2, rest)

/-- All lines. -/
def lines : (fuel : Nat) → List Char → Option (List Line)
  | 0, s => if s.isEmpty then some [] else none
  | fuel + 1, s =>
    if s.isEmpty then some []
    else (line s).bind fun r => (lines fuel r.2).map (r.1 :: ·)

end Toml.Reader

namespace Toml

open Reader (Line)

/-! ## Sections -/

/-- The entries up to the next header, and the lines from there on. -/
def splitSection : List Line → List (List String × String × Toml) × List Line
  | [] => ([], [])
  | .nothing :: rest => splitSection rest
  | .entry path key v :: rest =>
    let (entries, rest) := splitSection rest
    ((path, key, v) :: entries, rest)
  | .header several path key :: rest => ([], .header several path key :: rest)

/-- Adds the sections that begin with each header. -/
def addSections : (fuel : Nat) → Entries → List Line → Option Entries
  | 0, _, _ => none
  | _ + 1, es, [] => some es
  | fuel + 1, es, .header several path key :: rest =>
    let (entries, rest) := splitSection rest
    (es.addSection several key (fun inner => inner.putAll entries) path).bind fun es =>
      addSections fuel es rest
  | fuel + 1, es, _ :: rest => addSections fuel es rest

/-- The table that lines define. -/
def ofLines (ls : List Line) : Option (List (String × Toml)) :=
  let (entries, rest) := splitSection ls
  (Entries.putAll [] entries).bind fun es =>
    (addSections (rest.length + 1) es rest).map finishEntries

/-! ## Marked times -/

/-- The key that marks a table as a time. -/
def timeMark : String := "$__toml_private_datetime"

mutual

/-- A value in which every table that is marked as a time is that time. The
mark is the first key of such a table and holds the text of the time. -/
def withTimes : Toml → Option Toml
  | .arr vs => (withTimesItems vs).map .arr
  | .table [] => some (.table [])
  | .table ((key, v) :: rest) =>
    if key = timeMark then
      match v with
      | .str s => (Reader.wholeTime? s.toList).map .time
      | _ => none
    else do return .table ((key, ← v.withTimes) :: (← withTimesEntries rest))
  | v => some v

/-- The items of a list. -/
def withTimesItems : List Toml → Option (List Toml)
  | [] => some []
  | v :: rest => do return (← v.withTimes) :: (← withTimesItems rest)

/-- The entries of a table. -/
def withTimesEntries : List (String × Toml) → Option (List (String × Toml))
  | [] => some []
  | (key, v) :: rest => do return (key, ← v.withTimes) :: (← withTimesEntries rest)

end

/-- The table of a document. -/
def read? (s : String) : Option (List (String × Toml)) := do
  let chars :=
    match s.toList with
    | '\uFEFF' :: rest => rest
    | chars => chars
  let ls ← Reader.lines (chars.length + 1) chars
  match ← (Toml.table (← ofLines ls)).withTimes with
  | .table es => return es
  | _ => none

end Toml

end Amanuensis
