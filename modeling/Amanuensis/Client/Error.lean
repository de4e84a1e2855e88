import Amanuensis.Failure
/-!
# Client errors

What a request to the service may fail with, and the failure that each of
these is for the caller of a tool.
-/


namespace Amanuensis

namespace Client

/-- A request that brought no usable answer. -/
inductive Error where
  /-- The connection failed, or no answer came in time. -/
  | network (message : String)
  /-- The service answered with an error. -/
  | api (code message : String)
  /-- The caller cancelled the request. -/
  | cancelled
  /-- The answer could not be read. -/
  | invalidResponse (message : String)
  /-- The request could not be built. -/
  | invalidRequest (message : String)
deriving DecidableEq, Repr

namespace Error

/-- The error in one line. -/
def text : Error → String
  | .network message => "Network error: " ++ message
  | .api code message => "API error " ++ code ++ ": " ++ message
  | .cancelled => "Request cancelled"
  | .invalidResponse message => "Invalid response: " ++ message
  | .invalidRequest message => "Invalid request: " ++ message

/-- Did the request fail on the way? -/
def isNetwork : Error → Bool
  | .network _ => true
  | _ => false

/-- The failure that the error is for the caller of a tool. -/
def toFailure : Error → Failure
  | .network message => .network message
  | .api code message => .remote code message
  | .cancelled => ⟨.cancelled, "Request was cancelled", false⟩
  | .invalidResponse message => .remote Failure.invalidResponseCode message
  | .invalidRequest message => .validation message

end Error

end Client

end Amanuensis
