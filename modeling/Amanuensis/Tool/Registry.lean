import Amanuensis.Json.Writer
import Amanuensis.Tool.Basic
/-!
# The registry

The tools that may be called, in the order in which they were registered.
No two have the same name, and every name is made of small letters, digits
and underscores. A registry that refuses a tool stays as it was.
-/


namespace Amanuensis

namespace Tool

/-- May the character stand in the name of a tool? -/
def isNameChar (c : Char) : Bool :=
  ('a' ≤ c && c ≤ 'z') || ('0' ≤ c && c ≤ '9') || c == '_'

/-- Is the text a name for a tool? -/
def isName (s : String) : Bool := !s.toList.isEmpty && s.toList.all isNameChar

/-- Tools as they are published, as one text. -/
def publishAll (tools : List Tool) : String := (Json.arr (tools.map Tool.publish)).pretty

/-- The tools that may be called. -/
structure Registry where
  tools : List Tool
  names_valid : ∀ t ∈ tools, isName t.name = true
  names_nodup : (tools.map Tool.name).Nodup

/-- Why a tool is refused. -/
inductive Registry.Error where
  | duplicate (name : String)
  | invalidName (name : String)
deriving DecidableEq, Repr

/-- The wording of a refusal. -/
def Registry.Error.message : Registry.Error → String
  | .duplicate name => "tool already registered: " ++ name
  | .invalidName name =>
    "invalid tool name: " ++ Text.quote name ++ " (expected lowercase letters, digits and '_')"

namespace Registry

/-- The registry without tools. -/
def empty : Registry := ⟨[], by simp, by simp⟩

/-- The names of the tools, in the order of registration. -/
def names (r : Registry) : List String := r.tools.map Tool.name

/-- Is a tool registered under the name? -/
def has (r : Registry) (name : String) : Bool := r.names.contains name

/-- The tool that is registered under a name. -/
def get? (r : Registry) (name : String) : Option Tool := r.tools.find? (·.name = name)

/-- The registry with one more tool, at the end. -/
def register (r : Registry) (t : Tool) : Except Error Registry :=
  if valid : isName t.name = true then
    if fresh : t.name ∈ r.names then .error (.duplicate t.name)
    else
      .ok
        { tools := r.tools ++ [t]
          names_valid := by
            intro u hu
            rcases List.mem_append.1 hu with h | h
            · exact r.names_valid u h
            · rw [List.mem_singleton.1 h]
              exact valid
          names_nodup := by
            rw [List.map_append]
            refine List.nodup_append.2 ⟨r.names_nodup, by simp, ?_⟩
            intro a ha b hb hab
            simp only [List.map_cons, List.map_nil, List.mem_singleton] at hb
            exact fresh (hb ▸ hab ▸ ha) }
  else .error (.invalidName t.name)

/-- The registry with some more tools; the first that is refused ends it. -/
def registerAll (r : Registry) : List Tool → Except Error Registry
  | [] => .ok r
  | t :: rest =>
    match r.register t with
    | .ok r => r.registerAll rest
    | .error e => .error e

/-- The tools as they are published, as one text. -/
def schemaText (r : Registry) : String := publishAll r.tools

end Registry

end Tool

end Amanuensis
