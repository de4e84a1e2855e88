import Amanuensis.Binary64.Text
import Amanuensis.Json.Basic
import Amanuensis.Text.Lowercase
import Amanuensis.Text.Numeral
import Amanuensis.Text.Quoted
import Amanuensis.Toml.Basic
/-!
# Values of settings

What is set, wherever it was set: values with the source they come from, in
tables that later layers are merged into. `Value.toNatural`, `toNumber` and
`toText` convert a value to the type of the setting it is for; they are
generous, so that a setting can be given as a text in the environment.
-/


namespace Amanuensis

namespace Settings

/-- A value that is set, with its source. What is only made to hold other
values has no source. -/
inductive Value where
  /-- Nothing. -/
  | unit (origin : Option String)
  | bool (b : Bool) (origin : Option String)
  | int (n : Int) (origin : Option String)
  | float (x : Binary64) (origin : Option String)
  | str (s : String) (origin : Option String)
  | arr (items : List Value) (origin : Option String)
  | table (entries : List (String × Value)) (origin : Option String)
deriving Repr

instance : Inhabited Value := ⟨.unit none⟩

/-- Why settings cannot be used. -/
inductive Fault where
  /-- A file is malformed. -/
  | malformed (path : String)
  /-- A value cannot be converted to the type of its setting. -/
  | kind (found expected : String) (key : Option String) (origin : Option String)
  /-- A section is not what a section may be. -/
  | shape (message : String)
deriving DecidableEq, Repr

namespace Fault

/-- The fault in one line. -/
def text : Fault → String
  | .malformed path => "malformed settings in " ++ path
  | .kind found expected key origin =>
    "invalid type: " ++ found ++ ", expected " ++ expected ++
      (match key with
        | some k => " for key \x60" ++ k ++ "\x60"
        | none => "") ++
      (match origin with
        | some o => " in " ++ o
        | none => "")
  | .shape message => message

/-- The fault at a key. -/
def atKey (key : String) : Fault → Fault
  | .kind found expected _ origin => .kind found expected (some key) origin
  | f => f

end Fault

namespace Value

/-! ## Merging -/

/-- The value as a table: its entries and its source. Any other value counts
as an empty one without a source. -/
def asTable : Value → List (String × Value) × Option String
  | .table es origin => (es, origin)
  | _ => ([], none)

/-- The value as a list: its items and its source. Any other value counts as
an empty one without a source. -/
def asList : Value → List Value × Option String
  | .arr items origin => (items, origin)
  | _ => ([], none)

/-- The entries of a table; any other value counts as an empty one. -/
def entries (v : Value) : List (String × Value) := v.asTable.1

/-- The entries with the value of one key replaced, or added at the end. -/
def setEntry (key : String) (v : Value) : List (String × Value) → List (String × Value)
  | [] => [(key, v)]
  | (k, w) :: rest => if key = k then (key, v) :: rest else (k, w) :: setEntry key v rest

mutual

/-- What a key holds when a value is merged into what it held: a table is
merged entry by entry, any other value takes its place. A table without
entries changes nothing that is there. -/
def mergedWith (before : Option Value) : Value → Value
  | .table [] _ => before.getD (.table [] none)
  | .table (e :: es) _ =>
    let (there, origin) := (before.getD default).asTable
    .table (mergeEntries there (e :: es)) origin
  | .unit origin => .unit origin
  | .bool b origin => .bool b origin
  | .int n origin => .int n origin
  | .float x origin => .float x origin
  | .str s origin => .str s origin
  | .arr items origin => .arr items origin

/-- Entries merged into others. -/
def mergeEntries (done : List (String × Value)) : List (String × Value) → List (String × Value)
  | [] => done
  | (key, v) :: rest => mergeEntries (setEntry key (mergedWith (done.lookup key) v) done) rest

end

/-! ## Conversion -/

/-- What a value is, where it cannot be converted. -/
def describe : Value → String
  | .unit _ => "unit value"
  | .bool b _ => "boolean \x60" ++ toString b ++ "\x60"
  | .int n _ => "64-bit integer \x60" ++ toString n ++ "\x60"
  | .float x _ => "floating point \x60" ++ x.plainText ++ "\x60"
  | .str s _ => "string " ++ Text.quote s
  | .arr _ _ => "sequence"
  | .table _ _ => "map"

/-- The source of a value. -/
def origin? : Value → Option String
  | .unit o | .bool _ o | .int _ o | .float _ o | .str _ o | .arr _ o | .table _ o => o

/-- The fault of a value that should have been something else. -/
def unexpected (v : Value) (expected : String) : Fault :=
  .kind v.describe expected none v.origin?

/-- The words for true and false that also count as numbers. -/
def switch? (s : String) : Option Bool :=
  match String.ofList (Text.lowercase s.toList) with
  | "true" | "on" | "yes" => some true
  | "false" | "off" | "no" => some false
  | _ => none

/-- The greatest natural number of 64 bits. -/
def maxNatural : Nat := UInt64.size - 1

/-- A double as a natural number: rounded, a half away from zero, and held
to 64 bits. -/
def natural (x : Binary64) : Nat :=
  if x.isNaN || x.isNegative then 0
  else if x.isInfinite then maxNatural
  else min x.roundAway.toNat maxNatural

/-- The value as a natural number of 64 bits. -/
def toNatural (v : Value) : Except Fault Nat :=
  match v with
  | .int n _ =>
    if n < 0 then .error (v.unexpected "an unsigned 64 bit or less integer") else .ok n.toNat
  | .bool b _ => .ok b.toNat
  | .float x _ => .ok (natural x)
  | .str s _ =>
    match switch? s, Text.naturalBelow? UInt64.size s.toList with
    | some b, _ => .ok b.toNat
    | none, some n => .ok n
    | none, none => .error (v.unexpected "an integer")
  | v => .error (v.unexpected "an integer")

/-- The value as a natural number of 32 bits. -/
def toSmallNatural (v : Value) : Except Fault Nat := do
  let n ← v.toNatural
  if n < UInt32.size then return n
  else
    throw (.kind ("64-bit unsigned integer \x60" ++ toString n ++ "\x60")
      "an unsigned 32 bit integer" none none)

/-- The value as a double. -/
def toNumber (v : Value) : Except Fault Binary64 :=
  match v with
  | .int n _ => .ok (.ofInt n)
  | .bool b _ => .ok (.ofNat b.toNat)
  | .float x _ => .ok x
  | .str s _ =>
    match switch? s, Text.double? s.toList with
    | some b, _ => .ok (.ofNat b.toNat)
    | none, some x => .ok x
    | none, none => .error (v.unexpected "a floating point")
  | v => .error (v.unexpected "a floating point")

/-- The value as a text. -/
def toText (v : Value) : Except Fault String :=
  match v with
  | .int n _ => .ok (toString n)
  | .bool b _ => .ok (toString b)
  | .float x _ => .ok x.plainText
  | .str s _ => .ok s
  | v => .error (v.unexpected "a string")

/-! ## Layers -/

/-- The greatest integer of 64 bits. -/
def maxInteger : Int := Nat.pow 2 63 - 1

mutual

/-- A value of a settings document. Keys are in lower case. -/
def ofToml (origin : String) : Toml → Value
  | .str s => .str s (some origin)
  | .int n => .int n (some origin)
  | .float x => .float x (some origin)
  | .bool b => .bool b (some origin)
  | .time t => .str t (some origin)
  | .arr items => .arr (ofItems origin items) (some origin)
  | .table es => .table (ofEntries origin es) (some origin)

/-- The items of a list. -/
def ofItems (origin : String) : List Toml → List Value
  | [] => []
  | t :: rest => ofToml origin t :: ofItems origin rest

/-- The entries of a table. -/
def ofEntries (origin : String) : List (String × Toml) → List (String × Value)
  | [] => []
  | (key, t) :: rest =>
    (String.ofList (Text.lowercase key.toList), ofToml origin t) :: ofEntries origin rest

end

mutual

/-- A value of a JSON document. Keys are in lower case; an integer beyond 64
bits is a double. -/
def ofJson (origin : String) : Json → Value
  | .null => .unit (some origin)
  | .str s => .str s (some origin)
  | .num n =>
    match n with
    | .int k =>
      if -maxInteger - 1 ≤ k ∧ k ≤ maxInteger then .int k (some origin)
      else .float (.ofInt k) (some origin)
    | .float x => .float x (some origin)
  | .bool b => .bool b (some origin)
  | .arr items => .arr (ofJsonItems origin items) (some origin)
  | .obj members => .table (ofMembers origin members) (some origin)

/-- The items of an array. -/
def ofJsonItems (origin : String) : List Json → List Value
  | [] => []
  | j :: rest => ofJson origin j :: ofJsonItems origin rest

/-- The members of an object. -/
def ofMembers (origin : String) : List (String × Json) → List (String × Value)
  | [] => []
  | (key, j) :: rest =>
    (String.ofList (Text.lowercase key.toList), ofJson origin j) :: ofMembers origin rest

end

/-- Where variables come from. -/
def environmentOrigin : String := "the environment"

/-- The value of a variable: a truth value, an integer, a double or a
text. -/
def ofVariable (s : String) : Value :=
  let lower := String.ofList (Text.lowercase s.toList)
  if lower = "true" then .bool true (some environmentOrigin)
  else if lower = "false" then .bool false (some environmentOrigin)
  else
    match Text.integer? s.toList, Text.double? s.toList with
    | some n, _ => .int n (some environmentOrigin)
    | none, some x => .float x (some environmentOrigin)
    | none, none => .str s (some environmentOrigin)

end Value

end Settings

end Amanuensis
