import Amanuensis.Toml.Basic
/-!
# Tables under construction

A table of a settings document is put together from entries with dotted
keys and from sections, and it may be closed against further additions.
`Node` is a value or a table with the way in which it came about; `put`
adds an entry and `addSection` a section, and each refuses what would
define something twice.
-/


namespace Amanuensis

namespace Toml

/-- How a table came about. -/
inductive Opening where
  /-- By the header of a table within it. -/
  | implied
  /-- By an entry with a dotted key. -/
  | dotted
  /-- By a header of its own. -/
  | header
deriving DecidableEq, Repr

/-- A part of a table under construction. -/
inductive Node where
  | value (v : Toml)
  | table (opening : Opening) (entries : List (String × Node))
  /-- A list of tables, each with a header of its own. -/
  | tables (items : List (List (String × Node)))
deriving Inhabited

/-- The entries of a table under construction. -/
abbrev Entries := List (String × Node)

namespace Entries

/-- The entry with a key. -/
def find? (key : String) (es : Entries) : Option Node := es.lookup key

/-- The entries with the node of one key replaced, or added at the end. -/
def set (key : String) (node : Node) : Entries → Entries
  | [] => [(key, node)]
  | (k, n) :: rest => if key = k then (key, node) :: rest else (k, n) :: set key node rest

/-- The list with its last item changed, if it has one. -/
def changeLast {α : Type} (change : α → Option α) : List α → Option (List α)
  | [] => none
  | [a] => (change a).map ([·])
  | a :: rest => (changeLast change rest).map (a :: ·)

/-- Adds an entry under a dotted key. A table with a header of its own is
not added to in this way, and the last table on the way must have come
about by dotted keys. -/
def put (key : String) (v : Toml) : (path : List String) → Entries → Option Entries
  | [], es =>
    match es.find? key with
    | none => some (es.set key (.value v))
    | some _ => none
  | k :: path, es =>
    match es.find? k with
    | none => (put key v path []).map fun inner => es.set k (.table .dotted inner)
    | some (.table opening inner) =>
      if opening = .header ∨ (path.isEmpty ∧ opening ≠ .dotted) then none
      else (put key v path inner).map fun inner => es.set k (.table opening inner)
    | some (.tables items) =>
      if path.isEmpty then none
      else (changeLast (put key v path) items).map fun items => es.set k (.tables items)
    | some (.value _) => none

/-- Adds entries one after the other. -/
def putAll (es : Entries) : List (List String × String × Toml) → Option Entries
  | [] => some es
  | (path, key, v) :: rest =>
    match es.put key v path with
    | some es => es.putAll rest
    | none => none

/-- Opens the table of a section by its key, fills it, and puts it back. A
table gets its place among the entries from its own header. -/
def openSection (several : Bool) (key : String) (fill : Entries → Option Entries)
    (es : Entries) : Option Entries :=
  if several then
    match es.find? key with
    | none => (fill []).map fun inner => es.set key (.tables [inner])
    | some (.tables items) => (fill []).map fun inner => es.set key (.tables (items ++ [inner]))
    | some _ => none
  else
    match es.find? key with
    | none => (fill []).map fun inner => es.set key (.table .header inner)
    | some (.table .implied inner) =>
      (fill inner).map fun inner => set key (.table .header inner) (es.filter fun e => e.1 ≠ key)
    | some _ => none

/-- Adds a section: its path, the last key of its header, and how it is
filled. On the way the last of several tables is meant. -/
def addSection (several : Bool) (key : String) (fill : Entries → Option Entries) :
    (path : List String) → Entries → Option Entries
  | [], es => es.openSection several key fill
  | k :: path, es =>
    match es.find? k with
    | none =>
      (addSection several key fill path []).map fun inner => es.set k (.table .implied inner)
    | some (.table opening inner) =>
      (addSection several key fill path inner).map fun inner => es.set k (.table opening inner)
    | some (.tables items) =>
      (changeLast (addSection several key fill path) items).map fun items =>
        es.set k (.tables items)
    | some (.value _) => none

end Entries

/-! ## Finished tables -/

mutual

/-- The value of a finished part. -/
def Node.finish : Node → Toml
  | .value v => v
  | .table _ entries => .table (finishEntries entries)
  | .tables items => .arr (finishItems items)

/-- The entries of a finished table. -/
def finishEntries : List (String × Node) → List (String × Toml)
  | [] => []
  | (key, node) :: rest => (key, node.finish) :: finishEntries rest

/-- The tables of a finished list. -/
def finishItems : List (List (String × Node)) → List Toml
  | [] => []
  | entries :: rest => .table (finishEntries entries) :: finishItems rest

end

end Toml

end Amanuensis
