import Amanuensis.Text.Letter
import Amanuensis.Text.Runs
import Amanuensis.Tool.Basic
/-!
# Generating documents

A document is generated by one request, from its content, a format and
perhaps a title. The service answers with the address of the file and
perhaps a name for it; `defaultFilename` is the name where it gives none.
-/


namespace Amanuensis

namespace Generation

open Wire

/-- The formats of documents. -/
inductive Format where
  | docx
  | pdf
  | markdown
deriving DecidableEq, Repr

namespace Format

def names : List (String × Format) :=
  [("docx", .docx), ("pdf", .pdf), ("markdown", .markdown)]

def text : Format → String
  | .docx => "docx"
  | .pdf => "pdf"
  | .markdown => "markdown"

/-- What the name of a file ends in. -/
def extension : Format → String
  | .docx => "docx"
  | .pdf => "pdf"
  | .markdown => "md"

def decode (j : Json) : Decoded Format := named names j

def encode (f : Format) : Json := .str f.text

end Format

/-- What a document is to hold. -/
structure DocumentOrder where
  content : String
  format : Format
  title : Option String
deriving DecidableEq, Repr

namespace DocumentOrder

def fields : List Field :=
  [.needed "content" string, .optional "format" Format.decode,
    .optional "title" (nullable string)]

def decode (j : Json) : Decoded DocumentOrder := do
  let members ← record "DocumentGenerationParams" fields j
  let content ← field members "content" string
  let format ← fieldOr members "format" Format.decode .docx
  let title ← fieldOr members "title" (nullable string) none
  return ⟨content, format, title⟩

/-- The body of the request; the format is always given, an absent title is
left out. -/
def encode (o : DocumentOrder) : Json :=
  .ofMembers [("content", some (.str o.content)), ("format", some o.format.encode),
    ("title", o.title.map .str)]

/-- The parameters as they are published. -/
def schema : Tool.Schema :=
  { title := "DocumentGenerationParams"
    description := "document_generation 参数"
    properties :=
      [⟨"content", .text, some "文档正文或生成说明", none⟩,
        ⟨"format", .choice "DocumentFormat", none, some (.str "docx")⟩,
        ⟨"title", .nullableText, none, none⟩]
    required := ["content"]
    choices := [⟨"DocumentFormat", none, ["docx", "pdf", "markdown"]⟩] }

/-- Where documents are generated. -/
def endpoint : String := "document-generation"

end DocumentOrder

/-! ## File names -/

/-- The stem of a file name: the words of the title, joined by hyphens. -/
def stem (title : String) : String :=
  match Text.runs Text.isAlphanumeric title.toList with
  | [] => "document"
  | words => "-".intercalate (words.map fun w => String.ofList (w.map Text.lowerAscii))

/-- The file name for a document whose name the service leaves open. -/
def defaultFilename (title : Option String) (format : Format) : String :=
  stem (title.getD "document") ++ "." ++ format.extension

/-- The answer of the document tool, from the answer of the service. -/
def documentOutput (o : DocumentOrder) (answer : Json) : Except Failure Tool.Output :=
  match (answer.get? "url").bind Json.str? with
  | some url =>
    .ok (.file url
      (((answer.get? "filename").bind Json.str?).getD (defaultFilename o.title o.format)))
  | none => .error (.remote Failure.invalidResponseCode "Document response has no url")

end Generation

end Amanuensis
