import Amanuensis.CommandLine
/-!
# Runs on a live network

How a run goes on while its answers are still coming in. A `Live` run knows
what has come of the messages sent so far. What it does next follows from
the call under a network in which nothing comes of any other message: the
first message of that call of which nothing is known yet is the one to send
next, and the call says until when anybody waits for it. An interruption
ends all waiting, so nothing is sent after one.
-/


namespace Amanuensis

namespace CommandLine

/-- A run that is under way. -/
structure Live where
  settings : Settings
  request : String
  /-- What came of messages and how long it took, by their numbers. -/
  known : List (Nat × Http.Exchange × Nat)
  interruption : Option Interruption

/-- A message to be sent: its number among the requests, and when it is
due. -/
structure Sending where
  number : Nat
  message : Http.Message
  time : Instant

namespace Live

/-- A run that has just begun. -/
def start (s : Settings) (request : String) : Live := ⟨s, request, [], none⟩

/-- The network as far as it is known. -/
def network (l : Live) : Http.Network :=
  fun t _ => (l.known.lookup t.total).getD (.silent, 0)

/-- The call, as far as it can be told. -/
def report (l : Live) (moves : Nat) : Invocation.Report :=
  call l.settings l.network moves l.interruption l.request

/-- The requests of a call with their numbers and times. -/
def requests (trace : List Invocation.Happening) : List (Nat × Client.Request × Instant) :=
  let asked := trace.filterMap fun h =>
    match h with
    | .asked q time => some (q, time)
    | _ => none
  asked.zipIdx.map fun a => (a.2, a.1)

/-- The first message of which nothing is known. -/
def next (l : Live) (r : Invocation.Report) : Option Sending :=
  if l.interruption.isSome then none
  else
    (requests r.trace).findSome? fun (number, q, time) =>
      match Http.messageOf l.settings.api.baseUrl q, l.known.lookup number with
      | .ok message, none => some ⟨number, message, time⟩
      | _, _ => none

/-- Until when the answer to a message is waited for. -/
def patience (l : Live) (r : Invocation.Report) (s : Sending) : Instant :=
  min (s.time + (Duration.ofParts l.settings.api.requestTimeoutSeconds 0).nanos) r.moment.now

/-- The run once it is known what came of a message. -/
def learn (l : Live) (s : Sending) (x : Http.Exchange) (latency : Nat) : Live :=
  { l with known := (s.number, x, latency) :: l.known }

/-- The run once it is interrupted. -/
def interrupt (l : Live) (i : Interruption) : Live := { l with interruption := some i }

end Live

end CommandLine

end Amanuensis
