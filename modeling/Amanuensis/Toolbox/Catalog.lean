import Amanuensis.Generation.Document
import Amanuensis.Generation.Image
import Amanuensis.Research.Inquiry
import Amanuensis.Tool.Registry
/-!
# The built-in tools

The three tools that are always there: research, images and documents.
What each publishes of itself stands here; what each does when it is called
stands in the module on their handlers.
-/


namespace Amanuensis

namespace Toolbox

/-- The tool for research. -/
def research : Tool :=
  { name := "deep_research"
    description := "Run a multi-step deep research job on a topic and return a cited report. " ++
      "Args: \x7b\"query\": \"research question\", \"depth\": \"quick\" | \"thorough\" " ++
      "(optional)\x7d"
    kind := .text
    phrases := ["do a deep research on", "deep research", "research this topic",
      "find sources on", "look into", "investigate", "research"]
    parameters := Research.Inquiry.schema.toJson
    primary := some "query" }

/-- The tool for images. -/
def image : Tool :=
  { name := "image_generation"
    description := "Generate an illustration from a text prompt. " ++
      "Args: \x7b\"prompt\": \"description\", \"size\": \"1024x1024\" (optional)\x7d"
    kind := .image
    phrases := ["generate an image of", "create an image of", "draw a picture of",
      "generate an image", "create an image", "illustrate", "draw"]
    parameters := Generation.ImageOrder.schema.toJson
    primary := some "prompt" }

/-- The tool for documents. -/
def document : Tool :=
  { name := "document_generation"
    description := "Export writing as a downloadable document. " ++
      "Args: \x7b\"content\": \"text\", \"format\": \"docx\" | \"pdf\" | \"markdown\", " ++
      "\"title\": \"optional\"\x7d"
    kind := .file
    phrases := ["generate a document", "create a document", "export as pdf", "export as docx",
      "make a document", "export"]
    parameters := Generation.DocumentOrder.schema.toJson
    primary := some "content" }

/-- The built-in tools, in the order in which they are offered. -/
def all : List Tool := [research, image, document]

/-- The registry of the built-in tools. -/
def registry : Tool.Registry := ⟨all, by decide, by decide⟩

end Toolbox

end Amanuensis
