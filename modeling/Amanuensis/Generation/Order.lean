import Amanuensis.Generation.Document
import Amanuensis.Generation.Image
/-!
# Orders to generate something

Images and documents are ordered in one way: a notice, one request to an
endpoint, and an output made of the answer. `Order` is either of them.
-/


namespace Amanuensis

namespace Generation

/-- Something to be generated. -/
inductive Order where
  | image (o : ImageOrder)
  | document (o : DocumentOrder)
deriving DecidableEq, Repr

namespace Order

/-- What is reported before the request. -/
def notice : Order → String
  | .image _ => "generating image"
  | .document _ => "generating document"

/-- Where it is generated. -/
def endpoint : Order → String
  | .image _ => ImageOrder.endpoint
  | .document _ => DocumentOrder.endpoint

/-- The body of the request. -/
def body : Order → Json
  | .image o => o.encode
  | .document o => o.encode

/-- The output, from the answer of the service. -/
def output : Order → Json → Except Failure Tool.Output
  | .image _, answer => imageOutput answer
  | .document o, answer => documentOutput o answer

end Order

end Generation

end Amanuensis
