import Amanuensis.Tool.Basic
/-!
# Generating images

An image is generated by one request, from a description and perhaps a
size. The service answers with the address of the image.
-/


namespace Amanuensis

namespace Generation

open Wire

/-- What an image is to show. -/
structure ImageOrder where
  prompt : String
  size : Option String
deriving DecidableEq, Repr

namespace ImageOrder

def fields : List Field := [.needed "prompt" string, .optional "size" (nullable string)]

def decode (j : Json) : Decoded ImageOrder := do
  let members ← record "ImageGenerationParams" fields j
  let prompt ← field members "prompt" string
  let size ← fieldOr members "size" (nullable string) none
  return ⟨prompt, size⟩

/-- The body of the request; an absent size is left out. -/
def encode (o : ImageOrder) : Json :=
  .ofMembers [("prompt", some (.str o.prompt)), ("size", o.size.map .str)]

/-- The parameters as they are published. -/
def schema : Tool.Schema :=
  { title := "ImageGenerationParams"
    description := "image_generation 参数"
    properties :=
      [⟨"prompt", .text, some "图片描述", none⟩,
        ⟨"size", .nullableText, some "如 \"1024x1024\"", none⟩]
    required := ["prompt"]
    choices := [] }

/-- Where images are generated. -/
def endpoint : String := "image-generation"

end ImageOrder

/-- The answer of the image tool, from the answer of the service. -/
def imageOutput (answer : Json) : Except Failure Tool.Output :=
  match (answer.get? "url").bind Json.str? with
  | some url => .ok (.image url)
  | none => .error (.remote Failure.invalidResponseCode "Image response has no url")

end Generation

end Amanuensis
