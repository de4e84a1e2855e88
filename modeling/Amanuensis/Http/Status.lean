import Amanuensis.Client.Error
import Amanuensis.Json.Reader
import Amanuensis.Text.Blank
import Amanuensis.Wire.Decode
/-!
# Status codes

What the service means when its answer is not a success: the status code
with its registered reason, and the error that the body of the answer
describes. What the body leaves open falls back on the status.
-/


namespace Amanuensis

namespace Http

/-- The registered reasons. -/
def reasons : List (Nat × String) :=
  [(100, "Continue"), (101, "Switching Protocols"), (102, "Processing"), (103, "Early Hints"),
    (200, "OK"), (201, "Created"), (202, "Accepted"), (203, "Non Authoritative Information"),
    (204, "No Content"), (205, "Reset Content"), (206, "Partial Content"), (207, "Multi-Status"),
    (208, "Already Reported"), (226, "IM Used"), (300, "Multiple Choices"),
    (301, "Moved Permanently"), (302, "Found"), (303, "See Other"), (304, "Not Modified"),
    (305, "Use Proxy"), (307, "Temporary Redirect"), (308, "Permanent Redirect"),
    (400, "Bad Request"), (401, "Unauthorized"), (402, "Payment Required"), (403, "Forbidden"),
    (404, "Not Found"), (405, "Method Not Allowed"), (406, "Not Acceptable"),
    (407, "Proxy Authentication Required"), (408, "Request Timeout"), (409, "Conflict"),
    (410, "Gone"), (411, "Length Required"), (412, "Precondition Failed"),
    (413, "Payload Too Large"), (414, "URI Too Long"), (415, "Unsupported Media Type"),
    (416, "Range Not Satisfiable"), (417, "Expectation Failed"), (418, "I'm a teapot"),
    (421, "Misdirected Request"), (422, "Unprocessable Entity"), (423, "Locked"),
    (424, "Failed Dependency"), (425, "Too Early"), (426, "Upgrade Required"),
    (428, "Precondition Required"), (429, "Too Many Requests"),
    (431, "Request Header Fields Too Large"), (451, "Unavailable For Legal Reasons"),
    (500, "Internal Server Error"), (501, "Not Implemented"), (502, "Bad Gateway"),
    (503, "Service Unavailable"), (504, "Gateway Timeout"), (505, "HTTP Version Not Supported"),
    (506, "Variant Also Negotiates"), (507, "Insufficient Storage"), (508, "Loop Detected"),
    (510, "Not Extended"), (511, "Network Authentication Required")]

/-- A status code with its reason. -/
def statusText (status : Nat) : String :=
  toString status ++ " " ++ (reasons.lookup status).getD "<unknown status code>"

def isSuccess (status : Nat) : Bool := 200 ≤ status && status < 300

/-! ## Errors of the service -/

/-- What a body says of an error: its message and its code. -/
structure Complaint where
  message : Option String
  code : Option String
deriving DecidableEq, Repr

namespace Complaint

def fields : List Wire.Field :=
  [.optional "error" (Wire.nullable Wire.string), .optional "code" (Wire.nullable Wire.string)]

/-- The complaint in a value. -/
def decode (j : Json) : Wire.Decoded Complaint := do
  let members ← Wire.record "ApiErrorBody" fields j
  return ⟨← Wire.fieldOr members "error" (Wire.nullable Wire.string) none,
    ← Wire.fieldOr members "code" (Wire.nullable Wire.string) none⟩

/-- The complaint in a body; a body that holds none says nothing. -/
def read (body : String) : Complaint :=
  match Json.readAs? (.record [("error", .whole), ("code", .whole)]) body with
  | none => ⟨none, none⟩
  | some j =>
    match decode j with
    | .ok c => c
    | .error _ => ⟨none, none⟩

end Complaint

/-- The code of an error whose body gives none. -/
def defaultCode (status : Nat) : String :=
  if status = 429 then Failure.rateLimitCode else "HTTP_" ++ toString status

/-- The message of an error whose body gives none: the beginning of the
body, or the status where the body is blank. -/
def defaultMessage (status : Nat) (body : String) : String :=
  let trimmed := Text.trim body.toList
  if trimmed.isEmpty then statusText status else String.ofList (trimmed.take 200)

/-- The code and the message of an answer that is not a success. -/
def complaint (status : Nat) (body : String) : String × String :=
  let c := Complaint.read body
  (c.code.getD (defaultCode status), c.message.getD (defaultMessage status body))

/-- The error that such an answer is. -/
def apiError (status : Nat) (body : String) : Client.Error :=
  let (code, message) := complaint status body
  .api code message

end Http

end Amanuensis
