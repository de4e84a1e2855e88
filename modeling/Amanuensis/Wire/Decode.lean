import Amanuensis.Json.Basic
import Amanuensis.Text.Quoted
/-!
# Decoding

How a typed value is read from a JSON value, and what is wrong where it
cannot be. `Fault` lists the causes and `Fault.message` words them.

A record may be given as an object or as the array of its fields in their
order. In an object unknown members are ignored, and of several faults the
first in the order of the members is reported, a missing field after all
of these. `record` does this for every type alike, from the list of its
fields.
-/


namespace Amanuensis

namespace Wire

/-- Why a JSON value is not what was expected. -/
inductive Fault where
  /-- A value of another kind. -/
  | kind (found : Json) (expected : String)
  /-- An object that should have had a single member. -/
  | notSingle
  /-- A list with too many or too few items. -/
  | length (found : Nat) (expected : String)
  /-- A name that is none of the known ones. -/
  | variant (found : String) (known : List String)
  | missing (field : String)
  | duplicate (field : String)
  /-- A value that is none of the alternatives. -/
  | noAlternative (name : String)
deriving Repr

/-- A name between backquotes. -/
def ticked (s : String) : String := "`" ++ s ++ "`"

/-- A value as a message names it: its kind, and what it is if it is
short. -/
def describe : Json → String
  | .null => "null"
  | .bool true => "boolean `true`"
  | .bool false => "boolean `false`"
  | .num (.int n) => "integer " ++ ticked (toString n)
  | .num (.float x) => "floating point " ++ ticked x.exponentText
  | .str s => "string " ++ Text.quote s
  | .arr _ => "sequence"
  | .obj _ => "map"

/-- The known names of a message: both of two, a list of more. -/
def oneOf : List String → String
  | [] => "there are no variants"
  | [a] => "expected " ++ ticked a
  | [a, b] => "expected " ++ ticked a ++ " or " ++ ticked b
  | names => "expected one of " ++ ", ".intercalate (names.map ticked)

/-- The wording of a fault. -/
def Fault.message : Fault → String
  | .kind found expected => "invalid type: " ++ describe found ++ ", expected " ++ expected
  | .notSingle => "invalid value: map, expected map with a single key"
  | .length found expected => "invalid length " ++ toString found ++ ", expected " ++ expected
  | .variant found known => "unknown variant " ++ ticked found ++ ", " ++ oneOf known
  | .missing field => "missing field " ++ ticked field
  | .duplicate field => "duplicate field " ++ ticked field
  | .noAlternative name => "data did not match any variant of untagged enum " ++ name

/-- The outcome of reading a value. -/
abbrev Decoded (α : Type) := Except Fault α

/-! ## Simple values -/

def string : Json → Decoded String
  | .str s => .ok s
  | j => .error (.kind j "a string")

/-- A number as a double; an integer is rounded. -/
def number : Json → Decoded Binary64
  | .num n => .ok n.toBinary64
  | j => .error (.kind j "f64")

/-- Each of some values in order, up to the first fault. -/
def each {α : Type} (decode : Json → Decoded α) : List Json → Decoded (List α)
  | [] => .ok []
  | j :: rest =>
    match decode j with
    | .error e => .error e
    | .ok a =>
      match each decode rest with
      | .error e => .error e
      | .ok as => .ok (a :: as)

/-- A list of values. -/
def list {α : Type} (decode : Json → Decoded α) : Json → Decoded (List α)
  | .arr items => each decode items
  | j => .error (.kind j "a sequence")

/-- Any value, in its normal form. -/
def value (j : Json) : Decoded Json := .ok j.normal

/-- A value that may be null. -/
def nullable {α : Type} (decode : Json → Decoded α) : Json → Decoded (Option α)
  | .null => .ok none
  | j => (decode j).map some

/-- One of several names, given as itself or as the key of an object whose
value is null. -/
def named {α : Type} (names : List (String × α)) (j : Json) : Decoded α :=
  let find (s : String) : Decoded α :=
    match names.lookup s with
    | some a => .ok a
    | none => .error (.variant s (names.map (·.1)))
  match j with
  | .str s => find s
  | .obj [(key, value)] =>
    match find key, value with
    | .ok a, .null => .ok a
    | .ok _, value => .error (.kind value "unit")
    | .error e, _ => .error e
  | .obj _ => .error .notSingle
  | j => .error (.kind j "string or map")

/-! ## Records -/

/-- A field of a record. -/
structure Field where
  key : String
  required : Bool
  /-- Reads the field's value for its faults alone. -/
  check : Json → Decoded Unit

/-- A field that must be there. -/
def Field.needed {α : Type} (key : String) (decode : Json → Decoded α) : Field :=
  ⟨key, true, fun j => (decode j).map fun _ => ()⟩

/-- A field that may be left out. -/
def Field.optional {α : Type} (key : String) (decode : Json → Decoded α) : Field :=
  ⟨key, false, fun j => (decode j).map fun _ => ()⟩

/-- The first fault among the members that are fields. -/
def checkMembers (fields : List Field) (seen : List String) :
    List (String × Json) → Decoded Unit
  | [] => .ok ()
  | (key, value) :: rest =>
    match fields.find? (·.key = key) with
    | none => checkMembers fields seen rest
    | some field =>
      if seen.contains key then .error (.duplicate key)
      else
        match field.check value with
        | .error e => .error e
        | .ok () => checkMembers fields (key :: seen) rest

/-- The first required field that no member gives. -/
def checkMissing (members : List (String × Json)) : List Field → Decoded Unit
  | [] => .ok ()
  | field :: rest =>
    if field.required && (Json.lookup field.key members).isNone then .error (.missing field.key)
    else checkMissing members rest

/-- The members of a record that is given as an array. `total` is the
number of its items and `few`, `many` say what a list of another length
should have been. -/
def fromItems (total : Nat) (few many : String) (done : Nat) :
    List Field → List Json → Decoded (List (String × Json))
  | [], [] => .ok []
  | [], _ :: _ => .error (.length total many)
  | field :: fields, [] =>
    if field.required then .error (.length done few) else fromItems total few many done fields []
  | field :: fields, value :: items =>
    match field.check value with
    | .error e => .error e
    | .ok () =>
      (fromItems total few many (done + 1) fields items).map ((field.key, value) :: ·)

/-- "1 element", "2 elements". -/
def elements (n : Nat) : String := if n = 1 then "1 element" else toString n ++ " elements"

/-- The members of a record that are its fields, all of them sound. -/
def record (name : String) (fields : List Field) : Json → Decoded (List (String × Json))
  | .obj members =>
    match checkMembers fields [] members with
    | .error e => .error e
    | .ok () => (checkMissing members fields).map fun _ => members
  | .arr items =>
    fromItems items.length ("struct " ++ name ++ " with " ++ elements fields.length)
      "fewer elements in array" 0 fields items
  | j => .error (.kind j ("struct " ++ name))

/-- The value of a required field among sound members. -/
def field {α : Type} (members : List (String × Json)) (key : String)
    (decode : Json → Decoded α) : Decoded α :=
  match Json.lookup key members with
  | some j => decode j
  | none => .error (.missing key)

/-- The value of a field that may be left out. -/
def fieldOr {α : Type} (members : List (String × Json)) (key : String)
    (decode : Json → Decoded α) (default : α) : Decoded α :=
  match Json.lookup key members with
  | some j => decode j
  | none => .ok default

end Wire

end Amanuensis
