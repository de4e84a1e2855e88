import Amanuensis.Research.Report
/-!
# Research jobs

A research job lives on the service. It is created by an `Order`; the
answer, a `Creation`, is the finished report at once or the name of a job
that has been queued. From then on the service is asked for the job's
`State`: its status, and with it a report, an error or a progress.

A status other than the four known ones is kept as it is written, and
counts as a job that is still running.
-/


namespace Amanuensis

namespace Research

open Wire

/-! ## Status -/

/-- The status of a job. -/
inductive Status where
  | pending
  | processing
  | completed
  | failed
  /-- Any other, as it is written. -/
  | other (name : String)
deriving DecidableEq, Repr

namespace Status

def text : Status → String
  | .pending => "pending"
  | .processing => "processing"
  | .completed => "completed"
  | .failed => "failed"
  | .other name => name

def ofText (s : String) : Status :=
  if s = "pending" then .pending
  else if s = "processing" then .processing
  else if s = "completed" then .completed
  else if s = "failed" then .failed
  else .other s

/-- Has the job come to its end? -/
def isTerminal : Status → Bool
  | .completed | .failed => true
  | _ => false

def decode (j : Json) : Decoded Status := (string j).map ofText

def encode (s : Status) : Json := .str s.text

end Status

/-! ## Orders -/

/-- How thorough the research is to be. -/
inductive Depth where
  | quick
  | thorough
deriving DecidableEq, Repr

namespace Depth

def text : Depth → String
  | .quick => "quick"
  | .thorough => "thorough"

def names : List (String × Depth) := [("quick", .quick), ("thorough", .thorough)]

def decode (j : Json) : Decoded Depth := named names j

def encode (d : Depth) : Json := .str d.text

end Depth

/-- A tool that the service may use in a job. -/
structure Aid where
  kind : String
deriving DecidableEq, Repr

namespace Aid

def decode (j : Json) : Decoded Aid := do
  let members ← record "ResearchToolSpec" [.needed "type" string] j
  return ⟨← field members "type" string⟩

def encode (a : Aid) : Json := .ofMembers [("type", some (.str a.kind))]

end Aid

/-- What a job is to find out. -/
structure Order where
  query : String
  depth : Option Depth
  aids : List Aid
deriving DecidableEq, Repr

/-- The body of the request: an absent depth and an empty list of aids are
left out. -/
def Order.encode (o : Order) : Json :=
  .ofMembers [("query", some (.str o.query)), ("depth", o.depth.map Depth.encode),
    ("tools", if o.aids.isEmpty then none else some (.arr (o.aids.map Aid.encode)))]

/-! ## Answers -/

/-- The answer to an order. -/
inductive Creation where
  /-- A job has been queued. -/
  | queued (jobId : String) (status : Option Status)
  /-- The report is there at once. -/
  | completed (report : Report)
deriving DecidableEq, Repr

namespace Creation

def queuedFields : List Field :=
  [.needed "jobId" string, .optional "status" (nullable Status.decode)]

/-- A queued job, which is always given as an object. -/
def decodeQueued (j : Json) : Decoded Creation :=
  match j with
  | .obj _ => do
    let members ← record "Queued" queuedFields j
    let jobId ← field members "jobId" string
    let status ← fieldOr members "status" (nullable Status.decode) none
    return .queued jobId status
  | j => .error (.kind j "struct Queued")

/-- A queued job where the value can be read as one, else a report. -/
def decode (j : Json) : Decoded Creation :=
  match decodeQueued j with
  | .ok c => .ok c
  | .error _ =>
    match Report.decode j with
    | .ok r => .ok (.completed r)
    | .error _ => .error (.noAlternative "CreateJobResponse")

end Creation

/-- Why a job failed, as the service says. -/
structure RemoteError where
  code : String
  message : String
deriving DecidableEq, Repr

namespace RemoteError

def decode (j : Json) : Decoded RemoteError := do
  let members ← record "RemoteError" [.needed "code" string, .needed "message" string] j
  return ⟨← field members "code" string, ← field members "message" string⟩

def encode (e : RemoteError) : Json :=
  .ofMembers [("code", some (.str e.code)), ("message", some (.str e.message))]

end RemoteError

/-- How far a job has come. -/
structure Progress where
  step : Option String
  percentage : Option Binary64
deriving DecidableEq, Repr

namespace Progress

def decode (j : Json) : Decoded Progress := do
  let members ← record "JobProgress"
    [.optional "step" (nullable string), .optional "percentage" (nullable number)] j
  return ⟨← fieldOr members "step" (nullable string) none,
    ← fieldOr members "percentage" (nullable number) none⟩

end Progress

/-- What the service says about a job. -/
structure State where
  status : Status
  result : Option Report
  error : Option RemoteError
  progress : Option Progress
deriving DecidableEq, Repr

namespace State

/-- Nothing but a status. -/
def ofStatus (s : Status) : State := ⟨s, none, none, none⟩

def fields : List Field :=
  [.needed "status" Status.decode, .optional "result" (nullable Report.decode),
    .optional "error" (nullable RemoteError.decode),
    .optional "progress" (nullable Progress.decode)]

def decode (j : Json) : Decoded State := do
  let members ← record "JobStatusResponse" fields j
  let status ← field members "status" Status.decode
  let result ← fieldOr members "result" (nullable Report.decode) none
  let error ← fieldOr members "error" (nullable RemoteError.decode) none
  let progress ← fieldOr members "progress" (nullable Progress.decode) none
  return ⟨status, result, error, progress⟩

end State

end Research

end Amanuensis
