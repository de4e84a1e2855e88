import Amanuensis.Duration
/-!
# Failures

What a call or a poll that does not succeed answers with: a kind from a
closed list, a message for people, and whether trying again may help. A
failure that the service reported keeps the service's own code. The
wordings stand here, one constructor per cause.
-/


namespace Amanuensis

/-- The kinds of failure. -/
inductive Failure.Kind where
  /-- The connection failed, or no answer came. -/
  | network
  /-- The service answered with an error, by its own code. -/
  | remote (code : String)
  /-- The time budget of a poll was used up. -/
  | pollingTimeout
  /-- The caller cancelled a poll. -/
  | pollingCancelled
  | toolNotFound
  /-- Parameters are missing or malformed. -/
  | validation
  /-- A call ran into its deadline. -/
  | timeout
  /-- The caller cancelled a call. -/
  | cancelled
  /-- The handler of a tool failed by itself. -/
  | handlerError
deriving DecidableEq, Repr

/-- The code of a kind. -/
def Failure.Kind.code : Failure.Kind → String
  | .network => "NETWORK"
  | .remote code => code
  | .pollingTimeout => "POLLING_TIMEOUT"
  | .pollingCancelled => "POLLING_CANCELLED"
  | .toolNotFound => "TOOL_NOT_FOUND"
  | .validation => "VALIDATION_ERROR"
  | .timeout => "TIMEOUT"
  | .cancelled => "CANCELLED"
  | .handlerError => "HANDLER_ERROR"

/-- A failed call or poll. -/
structure Failure where
  kind : Failure.Kind
  message : String
  retryable : Bool
deriving DecidableEq, Repr

namespace Failure

def code (f : Failure) : String := f.kind.code

/-- The failure in one line. -/
def text (f : Failure) : String := f.code ++ ": " ++ f.message

/-- Did the caller cancel? -/
def isCancellation (f : Failure) : Bool := f.kind = .pollingCancelled || f.kind = .cancelled

/-! ## Causes -/

def network (message : String) : Failure := ⟨.network, message, true⟩

/-- The code by which the service says that it is asked too often. -/
def rateLimitCode : String := "RATE_LIMIT"

/-- The code for an answer of the service that makes no sense. -/
def invalidResponseCode : String := "INVALID_RESPONSE"

/-- An error that the service reported. Only being asked too often passes
by itself. -/
def remote (code message : String) : Failure := ⟨.remote code, message, code = rateLimitCode⟩

/-- The budget of a poll was used up after so long and so many polls. -/
def pollingTimeout (elapsed : Duration) (polls : UInt32) : Failure :=
  ⟨.pollingTimeout,
    "Deep research polling timed out after " ++ elapsed.secondsText ++ "s (" ++ toString polls ++
      " polls). Thorough research can take longer to finish; " ++
      "try a larger max duration or the quick depth.",
    false⟩

def pollingCancelled : Failure :=
  ⟨.pollingCancelled, "Deep research polling was cancelled", false⟩

def toolNotFound (name : String) : Failure := ⟨.toolNotFound, "Unknown tool: " ++ name, false⟩

/-- No tool's phrase fits a request. -/
def noToolMatches : Failure := ⟨.toolNotFound, "No tool matches the input", false⟩

def validation (message : String) : Failure := ⟨.validation, message, false⟩

def timeout (tool : String) (deadline : Duration) : Failure :=
  ⟨.timeout, "Tool '" ++ tool ++ "' timed out after " ++ toString deadline.millis ++ "ms", true⟩

def cancelled (tool : String) : Failure :=
  ⟨.cancelled, "Tool '" ++ tool ++ "' was cancelled", false⟩

def handler (message : String) : Failure := ⟨.handlerError, message, false⟩

end Failure

end Amanuensis
