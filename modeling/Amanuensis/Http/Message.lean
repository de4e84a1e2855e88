import Amanuensis.Client.Request
import Amanuensis.Url.Basic
/-!
# Messages to the service

The message that carries a request: a method, an address below the base of
the service, and perhaps a body. A base that is no address keeps the
message from being built. For the state of a job the address is built from
segments, and the job's name is one of them, whatever it holds.
-/


namespace Amanuensis

namespace Http

/-- The methods that are used. -/
inductive Method where
  | get
  | post
deriving DecidableEq, Repr

def Method.text : Method → String
  | .get => "GET"
  | .post => "POST"

/-- A message to the service. -/
structure Message where
  method : Method
  url : Url
  /-- A user name and a password. -/
  credentials : Option (List Char × List Char)
  body : Option Json
deriving Repr

/-- How the program names itself. -/
def userAgent : String := "silmari/0.1.0"

/-- The type of the bodies that are sent. -/
def contentType : String := "application/json"

/-- The base of all addresses, without slashes at its end. -/
def trimBase (base : String) : String :=
  String.ofList (Text.dropEndWhile (· = '/') base.toList)

/-- Where research jobs are. -/
def researchPath : String := "/api/tools/deep-research"

/-- The address at which an endpoint generates. -/
def endpointPath (endpoint : String) : String := "/api/tools/" ++ endpoint

/-- The address of the state of a job. -/
def jobStatusUrl (base jobId : String) : Except Client.Error Url :=
  match Url.parse (trimBase base ++ researchPath) with
  | .error e => .error (.invalidRequest ("invalid base url: " ++ e.message))
  | .ok u =>
    match (u.push jobId.toList).bind (·.push "status".toList) with
    | some u => .ok u
    | none => .error (.invalidRequest "base url cannot carry a path")

/-- How many bytes the address of a message may have. -/
def maxAddress : Nat := 65534

/-- May the character stand in the name of a server, but not in the address
of a message? -/
def isMisplaced (c : Char) : Bool := c = '"' || c = '\x60' || c = '\x7b' || c = '\x7d'

/-- Can messages be sent to the address? -/
def isSendable (u : Url) : Bool :=
  match u.authority with
  | none => false
  | some a =>
    !a.host.isEmpty && (u.scheme = "http" || u.scheme = "https") && !a.host.any isMisplaced &&
      u.withoutCredentials.text.utf8ByteSize ≤ maxAddress

/-- The error of a message that cannot be built. -/
def notBuilt (u : Option Url) : Client.Error :=
  .network ("builder error" ++
    (match u with
      | some u => " for url (" ++ u.withoutCredentials.text ++ ")"
      | none => ""))

/-- The error of a message that brought no answer. -/
def notSent (u : Url) : Client.Error :=
  .network ("error sending request for url (" ++ u.withoutCredentials.text ++ ")")

/-- A message to an address. -/
def messageTo (method : Method) (u : Url) (body : Option Json) : Except Client.Error Message :=
  if isSendable u then .ok ⟨method, u.withoutCredentials, u.credentials?, body⟩
  else .error (notBuilt (some u))

/-- A message with a body to a path below the base. -/
def postTo (base path : String) (body : Json) : Except Client.Error Message :=
  match Url.parse (trimBase base ++ path) with
  | .error _ => .error (notBuilt none)
  | .ok u => messageTo .post u (some body)

/-- The message of a request. -/
def messageOf (base : String) : Client.Request → Except Client.Error Message
  | .create order => postTo base researchPath order.encode
  | .status jobId => (jobStatusUrl base jobId).bind fun u => messageTo .get u none
  | .generate endpoint body => postTo base (endpointPath endpoint) body

end Http

end Amanuensis
