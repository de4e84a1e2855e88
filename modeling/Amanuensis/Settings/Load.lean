import Amanuensis.Json.Reader
import Amanuensis.Settings.Basic
import Amanuensis.Settings.Files
import Amanuensis.Settings.Place
import Amanuensis.Toml.Document
/-!
# Loading settings

Where settings are found: the first default file that is there, a file that
is named, and the variables of the environment. Each of these layers is
merged over the ones before it, so that every setting has the value of the
last layer that gives it.
-/


namespace Amanuensis

namespace Settings

/-- What settings are loaded from. -/
structure Sources where
  files : Files
  /-- A file that is named. It need not be there. -/
  named : Option String
  /-- The variables of the environment. -/
  environment : List (String × String)

/-! ## Layers -/

/-- The paths of the default file without its ending, in the order in which
they are looked at. -/
def defaultNames : List String := ["config/default", "../config/default", "default"]

/-- Entries of the outermost level merged into values. -/
def mergeLayer (values : List (String × Value)) (layer : List (String × Value)) :
    List (String × Value) :=
  layer.foldl (fun done e => (e.2.put (steps e.1) (.table done none)).entries) values

/-- The text without the mark of its byte order. -/
def withoutMark (text : String) : String :=
  match text.toList with
  | '\uFEFF' :: rest => String.ofList rest
  | _ => text

/-- The entries of a document. -/
def entriesOf (path text : String) : Format → Option (List (String × Value))
  | .toml => (Toml.read? text).map (Value.ofEntries path)
  | .json =>
    match Json.read? text with
    | some (.obj members) => some (Value.ofMembers path members)
    | _ => none

/-- The layer of a file. -/
def fileLayer (file : String × Format × String) : Except Fault (List (String × Value)) :=
  match entriesOf file.1 (withoutMark file.2.2) file.2.1 with
  | some es => .ok es
  | none => .error (.malformed file.1)

/-- What the names of variables that are settings start with, in lower
case. -/
def variableStart : List Char := "silmari__".toList

/-- A name with a dot for every two underscores. -/
def dotted : List Char → List Char
  | '_' :: '_' :: rest => '.' :: dotted rest
  | c :: rest => c :: dotted rest
  | [] => []

/-- The entry that a variable is, if it is a setting. -/
def variableEntry? (name value : String) : Option (String × Value) :=
  let lower := Text.lowercase name.toList
  if variableStart.isPrefixOf lower then
    some (String.ofList (dotted (lower.drop variableStart.length)), Value.ofVariable value)
  else none

/-- The layer of the environment. -/
def environmentLayer (environment : List (String × String)) : List (String × Value) :=
  environment.filterMap fun v => variableEntry? v.1 v.2

namespace Sources

/-- The default file: one whose name has the usual ending has to be there,
and then the name is looked up. -/
def defaultFile? (s : Sources) : Option (String × Format × String) :=
  (defaultNames.find? fun name => s.files.isThere (name ++ ".toml")).bind s.files.find?

/-- The file that is named, if it is there. -/
def namedFile? (s : Sources) : Option (String × Format × String) :=
  (s.named.filter s.files.isThere).bind s.files.find?

/-- The layers, the first one lowest. -/
def layers (s : Sources) : Except Fault (List (List (String × Value))) := do
  let files ← (s.defaultFile?.toList ++ s.namedFile?.toList).mapM fileLayer
  return files ++ [environmentLayer s.environment]

end Sources

/-- Loads the settings. -/
def load (s : Sources) : Except Fault Settings := do
  ofValues ((← s.layers).foldl mergeLayer [])

end Settings

end Amanuensis
