import Amanuensis.Http.Exchange
import Amanuensis.Invocation.Call
import Amanuensis.Settings.Load
import Amanuensis.Shutdown
import Amanuensis.Toolbox.Handlers
/-!
# The command line

The program as its user sees it: the request is what stands on the command
line, the tool that it calls for is called, its progress goes to the error
stream as it is reported and its answer to the output. `run` is the whole
program as a function of the settings, the network and the instant at which
the user interrupts it, if that happens.
-/


namespace Amanuensis

namespace CommandLine

/-- What a run leaves behind. -/
structure Result where
  exit : Nat
  out : String
  err : String
deriving DecidableEq, Repr

/-- A run that ends in an error. -/
def Result.failed (lines : List String) (error : String) : Result :=
  ⟨1, "", String.join (lines.map (· ++ "\n")) ++ "Error: " ++ error ++ "\n"⟩

/-- An error that another error has caused. -/
def causedBy (error cause : String) : String :=
  error ++ "\n\nCaused by:\n    " ++ "\n    ".intercalate (cause.splitOn "\n")

/-- The request on the command line. -/
def requestOf (args : List String) : String := " ".intercalate args

def usage : String := "usage: silmari \"<request>\""

/-- A report of progress as a line. -/
def progressLine (p : Tool.Progress) : String :=
  match p.percentage with
  | some x =>
    let digits := x.fixedText 0
    "[" ++ String.ofList (List.replicate (3 - digits.length) ' ') ++ digits ++ "%] " ++ p.message
  | none => "[ .. ] " ++ p.message

/-- The lines of progress in a trace, and when they are reported. -/
def progressLines (trace : List Invocation.Happening) : List (String × Instant) :=
  trace.filterMap fun h =>
    match h with
    | .progressed p time => some (progressLine p, time)
    | _ => none

/-- What calls the tools under some settings. -/
def invoker (s : Settings) : Invocation.Invoker Toolbox.Machine :=
  ⟨.new Toolbox.registry s.tools.minMatchScore, Toolbox.handlers s.polling.options,
    s.tools.timeout⟩

/-- The client under some settings. -/
def client (s : Settings) (network : Http.Network) : Client :=
  Http.client s.api.baseUrl (.ofParts s.api.requestTimeoutSeconds 0) network

/-- What the program gives along with a call. -/
def context : Invocation.Context :=
  { Invocation.Context.bare with signalled := true, onProgress := some fun _ _ => false }

/-- An interruption: why, and when it comes. -/
structure Interruption where
  reason : Shutdown.Reason
  time : Instant
deriving DecidableEq, Repr

/-- The call that a request leads to. -/
def call (s : Settings) (network : Http.Network) (moves : Nat) (interruption : Option Interruption)
    (request : String) : Invocation.Report :=
  ((invoker s).dispatch (client s network) moves request context
    (.start (interruption.map (·.time)))).2

/-- The error of a call that failed. -/
def failureText (interruption : Option Interruption) (f : Failure) : String :=
  match f.isCancellation, interruption with
  | true, some i => "Request cancelled: " ++ i.reason.text
  | _, _ => f.text

/-- What a call leaves behind. -/
def resultOf (interruption : Option Interruption) (r : Invocation.Report) : Result :=
  let lines := (progressLines r.trace).map (·.1)
  match r.answer with
  | some (.ok o) => ⟨0, o.encode.pretty ++ "\n", String.join (lines.map (· ++ "\n"))⟩
  | some (.error f) => .failed lines (failureText interruption f)
  | none => .failed lines "the call never returned"

/-- The error of settings that cannot be used. -/
def settingsError (f : Settings.Fault) : String := causedBy "Failed to load config" f.text

/-- The settings and the request of a run, or the error that keeps it from
starting. -/
def prepare (sources : Settings.Sources) (args : List String) : Except String (Settings × String) :=
  match Settings.load sources with
  | .error f => .error (settingsError f)
  | .ok s =>
    let request := requestOf args
    if (Text.trim request.toList).isEmpty then .error usage else .ok (s, request)

/-- Runs the program. -/
def run (sources : Settings.Sources) (args : List String) (network : Http.Network) (moves : Nat)
    (interruption : Option Interruption) : Result :=
  match prepare sources args with
  | .error e => .failed [] e
  | .ok (s, request) => resultOf interruption (call s network moves interruption request)

end CommandLine

end Amanuensis
