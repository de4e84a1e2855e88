import Amanuensis.Tool.Registry
/-!
# How a registry is kept

The tools of a registry stand in a row, in the order of their registration,
and beside the row it is noted at which place of it each name stands. A tool
is found by the place of its name alone. `Store.register` adds to the row
and to the notes, or refuses the tool; a caller who goes on after that does
so with the store as it was (`Store.attempt`).
-/


namespace Amanuensis

namespace Tool

/-- A registry as it is kept. -/
structure Store where
  /-- The row. -/
  tools : Array Tool
  /-- The place of each name, the newest note first. -/
  places : List (String × Nat)
deriving Repr

/-- A place that is not in the row. -/
structure Store.Outside where
  place : Nat
deriving DecidableEq, Repr

namespace Store

/-- The store without tools. -/
def empty : Store := ⟨#[], []⟩

/-- The tools, in the order of registration. -/
def values (s : Store) : List Tool := s.tools.toList

/-- Their names, in the same order. -/
def names (s : Store) : List String := s.values.map Tool.name

/-- How many there are. -/
def size (s : Store) : Nat := s.tools.size

/-- The place that is noted for a name. -/
def place? (s : Store) (name : String) : Option Nat := s.places.lookup name

/-- Is a place noted for the name? -/
def has (s : Store) (name : String) : Bool := (s.place? name).isSome

/-- The tool at the place of a name. The look-up breaks down if the place is
not in the row. -/
def lookup (s : Store) (name : String) : Except Outside (Option Tool) :=
  match s.place? name with
  | none => .ok none
  | some i =>
    match s.tools[i]? with
    | some t => .ok (some t)
    | none => .error ⟨i⟩

/-- The tools as they are published, as one text. -/
def schemaText (s : Store) : String := publishAll s.values

/-- The store with one more tool, at the end of the row. -/
def register (s : Store) (t : Tool) : Except Registry.Error Store :=
  if isName t.name then
    if s.has t.name then .error (.duplicate t.name)
    else .ok ⟨s.tools.push t, (t.name, s.tools.size) :: s.places⟩
  else .error (.invalidName t.name)

/-- The store after a tool has been offered: as it was, if the tool is
refused. -/
def attempt (s : Store) (t : Tool) : Store :=
  match s.register t with
  | .ok s => s
  | .error _ => s

/-- The store after some tools have been offered, one after the other. -/
def after (s : Store) (calls : List Tool) : Store := calls.foldl attempt s

/-- Those of the tools that are not refused. -/
def admitted (s : Store) : List Tool → List Tool
  | [] => []
  | t :: rest =>
    match s.register t with
    | .ok s => t :: s.admitted rest
    | .error _ => s.admitted rest

end Store

end Tool

end Amanuensis
