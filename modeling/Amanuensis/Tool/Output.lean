import Amanuensis.Wire.Decode
/-!
# What tools answer

A tool answers with a text, an image or a file, and says beforehand which
of these it will be. On the wire an answer is an object with its kind
under `type`, or an array that begins with its kind.
-/


namespace Amanuensis

namespace Tool

open Wire

/-- The kinds of answer. -/
inductive OutputKind where
  | text
  | image
  | file
deriving DecidableEq, Repr

namespace OutputKind

/-- The kind on the wire. -/
def tag : OutputKind → String
  | .text => "text"
  | .image => "image"
  | .file => "file"

/-- The kind in a message. -/
def title : OutputKind → String
  | .text => "Text"
  | .image => "Image"
  | .file => "File"

def names : List (String × OutputKind) :=
  [("text", .text), ("image", .image), ("file", .file)]

def decode (j : Json) : Decoded OutputKind := named names j

def encode (k : OutputKind) : Json := .str k.tag

end OutputKind

/-- The answer of a tool. -/
inductive Output where
  | text (content : String)
  | image (url : String)
  | file (url filename : String)
deriving DecidableEq, Repr

namespace Output

def kind : Output → OutputKind
  | .text _ => .text
  | .image _ => .image
  | .file _ _ => .file

def isText : Output → Bool
  | .text _ => true
  | _ => false

def isImage : Output → Bool
  | .image _ => true
  | _ => false

def isFile : Output → Bool
  | .file _ _ => true
  | _ => false

/-- The answer on the wire. -/
def encode : Output → Json
  | .text content => .ofMembers [("type", some (.str "text")), ("content", some (.str content))]
  | .image url => .ofMembers [("type", some (.str "image")), ("url", some (.str url))]
  | .file url filename =>
    .ofMembers [("type", some (.str "file")), ("url", some (.str url)),
      ("filename", some (.str filename))]

/-- The kind that a value names. -/
def decodeTag : Json → Decoded OutputKind
  | .str s =>
    match OutputKind.names.lookup s with
    | some k => .ok k
    | none => .error (.variant s (OutputKind.names.map (·.1)))
  | j => .error (.kind j "variant identifier")

/-- The kind that the members name: the first fault among the members with
the key `type` decides. -/
def tagOf (found : Option OutputKind) : List (String × Json) → Decoded OutputKind
  | [] =>
    match found with
    | some k => .ok k
    | none => .error (.missing "type")
  | (key, value) :: rest =>
    if key = "type" then
      match found with
      | some _ => .error (.duplicate "type")
      | none =>
        match decodeTag value with
        | .ok k => tagOf (some k) rest
        | .error e => .error e
    else tagOf found rest

def fields : OutputKind → List Field
  | .text => [.needed "content" string]
  | .image => [.needed "url" string]
  | .file => [.needed "url" string, .needed "filename" string]

/-- The answer of a kind from its members. -/
def ofMembers (k : OutputKind) (members : List (String × Json)) : Decoded Output :=
  match k with
  | .text => do return .text (← field members "content" string)
  | .image => do return .image (← field members "url" string)
  | .file => do return .file (← field members "url" string) (← field members "filename" string)

def decode : Json → Decoded Output
  | .obj members =>
    match tagOf none members with
    | .error e => .error e
    | .ok k =>
      match record "" (fields k) (.obj members) with
      | .error e => .error e
      | .ok members => ofMembers k members
  | .arr [] => .error (.missing "type")
  | .arr (tag :: items) =>
    match decodeTag tag with
    | .error e => .error e
    | .ok k =>
      let count := (fields k).length
      match fromItems items.length
          ("struct variant ToolResult::" ++ k.title ++ " with " ++ elements count)
          (elements count ++ " in sequence") 0 (fields k) items with
      | .error e => .error e
      | .ok members => ofMembers k members
  | j => .error (.kind j "internally tagged enum ToolResult")

end Output

end Tool

end Amanuensis
