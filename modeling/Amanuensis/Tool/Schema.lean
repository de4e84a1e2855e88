import Amanuensis.Json.Basic
/-!
# Parameter schemas

What a tool says about the parameters it takes. `Schema.toJson` is the
form in which it is published, a JSON schema of draft 7, and
`Schema.accepts` says which objects satisfy it. Every parameter is a text
or one of a few names; members that the schema does not mention are free.
-/


namespace Amanuensis

namespace Tool

/-- What the value of a parameter may be. -/
inductive Schema.Shape where
  | text
  | nullableText
  /-- One of the names of a choice. -/
  | choice (name : String)
  | nullableChoice (name : String)
deriving DecidableEq, Repr

/-- A parameter. -/
structure Schema.Property where
  key : String
  shape : Schema.Shape
  description : Option String
  /-- The value that stands for an absent one, where that is published. -/
  default : Option Json

/-- A closed list of names. -/
structure Schema.Choice where
  name : String
  description : Option String
  options : List String
deriving DecidableEq, Repr

/-- The parameters of a tool. -/
structure Schema where
  title : String
  description : String
  properties : List Schema.Property
  required : List String
  choices : List Schema.Choice

namespace Schema

/-! ## The published form -/

/-- A list of texts as a value. -/
def texts (l : List String) : Json := .arr (l.map .str)

/-- The reference to a choice. -/
def reference (name : String) : Json :=
  .ofMembers [("$ref", some (.str ("#/definitions/" ++ name)))]

/-- The members by which a shape is published. -/
def Shape.members : Shape → List (String × Option Json)
  | .text => [("type", some (.str "string"))]
  | .nullableText => [("type", some (texts ["string", "null"]))]
  | .choice name => [("allOf", some (.arr [reference name]))]
  | .nullableChoice name =>
    [("anyOf", some (.arr [reference name, .ofMembers [("type", some (.str "null"))]]))]

def Property.toJson (p : Property) : Json :=
  .ofMembers (p.shape.members ++
    [("default", p.default), ("description", p.description.map .str)])

def Choice.toJson (c : Choice) : Json :=
  .ofMembers [("type", some (.str "string")), ("enum", some (texts c.options)),
    ("description", c.description.map .str)]

/-- The schema as it is published. -/
def toJson (s : Schema) : Json :=
  .ofMembers [("$schema", some (.str "http://json-schema.org/draft-07/schema#")),
    ("title", some (.str s.title)), ("description", some (.str s.description)),
    ("type", some (.str "object")), ("required", some (texts s.required)),
    ("properties", some (.ofMembers (s.properties.map fun p => (p.key, some p.toJson)))),
    ("definitions",
      if s.choices.isEmpty then none
      else some (.ofMembers (s.choices.map fun c => (c.name, some c.toJson))))]

/-- The schema of a tool that takes no parameters. -/
def empty : Json :=
  .ofMembers [("type", some (.str "object")), ("properties", some (.obj [])),
    ("required", some (.arr []))]

/-! ## Satisfaction -/

/-- Is the value one of the names of a choice? -/
def acceptsChoice (choices : List Choice) (name : String) : Json → Bool
  | .str s => choices.any fun c => c.name = name && c.options.contains s
  | _ => false

/-- Does the value have the shape? -/
def Shape.accepts (choices : List Choice) : Shape → Json → Bool
  | .text, .str _ => true
  | .text, _ => false
  | .nullableText, .str _ => true
  | .nullableText, .null => true
  | .nullableText, _ => false
  | .choice name, j => acceptsChoice choices name j
  | .nullableChoice _, .null => true
  | .nullableChoice name, j => acceptsChoice choices name j

/-- Do the members of an object satisfy the schema? The required ones are
there, and each that the schema mentions has its shape. -/
def accepts (s : Schema) (members : List (String × Json)) : Bool :=
  s.required.all (fun key => (Json.lookup key members).isSome) &&
    s.properties.all fun p =>
      match Json.lookup p.key members with
      | none => true
      | some j => p.shape.accepts s.choices j

end Schema

end Tool

end Amanuensis
