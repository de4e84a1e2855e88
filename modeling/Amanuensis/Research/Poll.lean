import Amanuensis.Research.Backoff
import Amanuensis.Task.Move
/-!
# Polling a job

How a queued job is followed to its end. A poll goes through slots. Each
slot waits for the interval that is due, asks for the state of the job and
reports what it is told; where the connection fails, it asks again after a
fixed delay, a limited number of times. The interval doubles from slot to
slot; retries leave it alone. Before each slot the signal and the time
budget are looked at, and every wait and every request heeds the signal.

`Poll.step` is this as a machine. A slot settles in `Phase.reported`, after
its event; `Poll.conclude` says what the told state then means. Its counts
have 32 bits and start again from zero when these are used up.
-/


namespace Amanuensis

namespace Research

namespace Poll

/-- How a job is polled. -/
structure Options where
  initialInterval : Duration
  maxInterval : Duration
  /-- The time budget. -/
  maxDuration : Duration
  /-- The wait before a request is repeated. -/
  retryDelay : Duration
  /-- How often a request is repeated within a slot. -/
  maxRetries : UInt32
deriving DecidableEq, Repr

/-- The options unless others are given. -/
def Options.standard : Options :=
  ⟨.ofMillis 5000, .ofMillis 60000, .ofMillis 1800000, .ofMillis 1000, 3⟩

/-- The options for logs, and whether anybody listens and can cancel. -/
def Options.text (o : Options) (listened signalled : Bool) : String :=
  "PollOptions \x7b initial_interval: " ++ o.initialInterval.text ++ ", max_interval: " ++
    o.maxInterval.text ++ ", max_duration: " ++ o.maxDuration.text ++
    ", network_retry_delay: " ++ o.retryDelay.text ++ ", max_network_retries: " ++
    toString o.maxRetries ++ ", on_progress: " ++ toString listened ++ ", signal: " ++
    toString signalled ++ " \x7d"

/-- What is reported of a slot. -/
structure Event where
  status : Status
  count : UInt32
  elapsed : Duration
  progress : Option Progress
deriving DecidableEq, Repr

/-- What research brings. -/
structure Finding where
  report : Report
  count : UInt32
  elapsed : Duration
deriving DecidableEq, Repr

/-- Where a poll stands, between its moves. -/
structure Course where
  jobId : String
  startedAt : Instant
  backoff : Backoff
  /-- The slots that have asked. -/
  count : UInt32
  /-- The status last told. -/
  last : Status
deriving DecidableEq, Repr

/-- The time since the poll began. -/
def Course.elapsed (c : Course) (now : Instant) : Duration := .ofNanos (now - c.startedAt)

/-- The event of the slot under way. -/
def Course.event (c : Course) (now : Instant) (status : Status) (progress : Option Progress) :
    Event :=
  ⟨status, c.count, c.elapsed now, progress⟩

/-- The part of a slot that comes next. -/
inductive Phase where
  /-- A slot is about to begin. -/
  | begin
  /-- The wait for the interval is over. -/
  | rested (how : Task.Wake)
  /-- A request is over, after some failed ones. -/
  | answered (failures : UInt32) (answer : Option (Except Client.Error State))
  /-- The wait before a repeated request is over. -/
  | retried (failures : UInt32) (how : Task.Wake)
  /-- What the slot was told has been reported. -/
  | reported (state : State)
  /-- That the slot gave up has been reported. -/
  | exhausted (failure : Failure)

/-- The states of a poll. -/
abbrev Machine := Course × Phase

/-- The beginning of a poll. -/
def start (o : Options) (jobId : String) (now : Instant) : Machine :=
  (⟨jobId, now, .new o.initialInterval o.maxInterval, 0, .pending⟩, .begin)

/-- The moves of a poll. -/
abbrev Move := Task.Move Machine Event (Except Failure Finding)

/-- The failure of a slot whose requests have all failed. -/
def exhaustion (jobId : String) (attempts : UInt32) (message : String) : Failure :=
  .network ("Status check for job " ++ jobId ++ " failed after " ++ toString attempts ++
    " attempts: " ++ message)

/-- The failure of a job that has failed, from what the service says. -/
def jobFailure : Option RemoteError → Failure
  | some e => .remote e.code e.message
  | none => .remote "RESEARCH_FAILED" "Deep research job failed"

/-- What a told state settles the poll with, if the job has come to its
end. -/
def conclude (c : Course) (now : Instant) (s : State) : Option (Except Failure Finding) :=
  match s.status with
  | .completed =>
    match s.result with
    | some report => some (.ok ⟨report, c.count, c.elapsed now⟩)
    | none =>
      some (.error (.remote Failure.invalidResponseCode "Job completed without a result"))
  | .failed => some (.error (jobFailure s.error))
  | _ => none

/-- Begins a slot: the signal first, the budget next, then the wait. -/
def beginSlot (o : Options) (now : Instant) (cancelled : Bool) (c : Course) : Move :=
  if cancelled then .settle (.error .pollingCancelled)
  else if o.maxDuration.nanos ≤ (c.elapsed now).nanos then
    .settle (.error (.pollingTimeout (c.elapsed now) c.count))
  else .wait (some c.backoff.current.nanos) true fun how => (c, .rested how)

/-- Asks for the state of the job, after some failed requests. -/
def askState (c : Course) (failures : UInt32) : Move :=
  .ask (.status c.jobId) true fun answer => (c, .answered failures answer)

/-- Repeats a request that failed on the way, or gives up. -/
def retry (o : Options) (now : Instant) (c : Course) (failures : UInt32) (message : String) :
    Move :=
  if o.maxRetries < failures then
    .report (c.event now c.last none) (c, .exhausted (exhaustion c.jobId failures message))
  else .wait (some o.retryDelay.nanos) true fun how => (c, .retried failures how)

/-- The next move of a poll. -/
def step (o : Options) (now : Instant) (cancelled : Bool) : Machine → Move
  | (c, .begin) => beginSlot o now cancelled c
  | (_, .rested .cancelled) => .settle (.error .pollingCancelled)
  | (c, .rested .elapsed) => askState { c with count := c.count + 1 } 0
  | (_, .answered _ none) => .settle (.error .pollingCancelled)
  | (c, .answered _ (some (.ok s))) =>
    .report (c.event now s.status s.progress) ({ c with last := s.status }, .reported s)
  | (c, .answered failures (some (.error e))) =>
    match e with
    | .cancelled => .settle (.error .pollingCancelled)
    | .network message => retry o now c (failures + 1) message
    | e => .settle (.error e.toFailure)
  | (_, .retried _ .cancelled) => .settle (.error .pollingCancelled)
  | (c, .retried failures .elapsed) => askState c failures
  | (c, .reported s) =>
    match conclude c now s with
    | some result => .settle result
    | none => beginSlot o now cancelled { c with backoff := c.backoff.advance }
  | (_, .exhausted failure) => .settle (.error failure)

end Poll

/-- The task of polling a job. -/
def poll (o : Poll.Options) (jobId : String) (now : Instant) :
    Task Poll.Machine Poll.Event (Except Failure Poll.Finding) :=
  ⟨Poll.start o jobId now, Poll.step o⟩

end Research

end Amanuensis
