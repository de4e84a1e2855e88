import Amanuensis.Failure
import Amanuensis.Text.Blank
import Amanuensis.Text.Quoted
import Amanuensis.Tool.Output
import Amanuensis.Tool.Schema
/-!
# Tools

What is known of a tool before it is called: its name, the phrases that
call for it, the kind of its answers and the parameters it takes.
`Tool.check` holds the parameters of a call against the ones that are
required.
-/


namespace Amanuensis

/-- A tool. -/
structure Tool where
  name : String
  description : String
  kind : Tool.OutputKind
  /-- The phrases that call for the tool, the more telling ones first. -/
  phrases : List String
  /-- The schema of the parameters. -/
  parameters : Json
  /-- The parameter that a free text goes into. -/
  primary : Option String
deriving DecidableEq, Repr

namespace Tool

/-- A tool without phrases and parameters. -/
def plain (name description : String) (kind : OutputKind) : Tool :=
  ⟨name, description, kind, [], Schema.empty, none⟩

/-- The parameters that the schema requires. -/
def required (t : Tool) : List String :=
  match t.parameters.get? "required" with
  | some (.arr items) => items.filterMap Json.str?
  | _ => []

/-- Is a parameter as good as missing: absent, null or blank? -/
def isMissing : Option Json → Bool
  | none => true
  | some .null => true
  | some (.str s) => (Text.trim s.toList).isEmpty
  | some _ => false

/-- Checks the parameters of a call: an object in which no required member
is missing. -/
def check (t : Tool) : (params : Json) → Except Failure Unit
  | .obj members =>
    match t.required.filter fun key => isMissing (Json.lookup key members) with
    | [] => .ok ()
    | missing =>
      .error (.validation ("Missing required parameter(s) for '" ++ t.name ++ "': " ++
        ", ".intercalate missing))
  | _ => .error (.validation ("Parameters for '" ++ t.name ++ "' must be a JSON object"))

/-- Reads the parameters of a call as a value of some type. -/
def readParams {α : Type} (tool : String) (decode : Json → Wire.Decoded α) (params : Json) :
    Except Failure α :=
  match decode params with
  | .ok a => .ok a
  | .error e =>
    .error (.validation ("Invalid parameters for '" ++ tool ++ "': " ++ e.message))

/-- The tool as it is published. -/
def publish (t : Tool) : Json :=
  .ofMembers [("name", some (.str t.name)), ("description", some (.str t.description)),
    ("responseType", some t.kind.encode), ("triggerPhrases", some (Schema.texts t.phrases)),
    ("parameters", some t.parameters)]

/-- The tool in one line, for logs. -/
def summary (t : Tool) : String :=
  "ToolDefinition \x7b name: " ++ Text.quote t.name ++ ", response_type: " ++ t.kind.title ++
    ", trigger_phrases: [" ++ ", ".intercalate (t.phrases.map Text.quote) ++ "], .. \x7d"

end Tool

end Amanuensis
