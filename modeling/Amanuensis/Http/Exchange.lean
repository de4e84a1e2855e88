import Amanuensis.Duration
import Amanuensis.Http.Message
import Amanuensis.Http.Status
/-!
# Exchanges with the service

What the network makes of a message, and what that means for the request.
An answer that is a success must hold what the request asks for; any other
answer is an error that the service reports. `Http.client` is the client
that a network makes up.
-/


namespace Amanuensis

namespace Http

/-- What comes of a message. -/
inductive Exchange where
  /-- No connection, or one that closed without an answer. -/
  | refused
  /-- Nothing at all. -/
  | silent
  /-- An answer, whose body may have been cut short. -/
  | answered (status : Nat) (body : List UInt8) (complete : Bool)
deriving DecidableEq, Repr

/-! ## Bodies -/

/-- The parts of a report that are read. -/
def reportOutline : Json.Outline :=
  .record [("text", .whole), ("citations", .whole), ("reasoningSteps", .whole)]

/-- The parts of the state of a job that are read. -/
def stateOutline : Json.Outline :=
  .record [("status", .whole), ("result", reportOutline),
    ("error", .record [("code", .whole), ("message", .whole)]),
    ("progress", .record [("step", .whole), ("percentage", .whole)])]

/-- The text of a body, if it is one. -/
def textOf? (body : List UInt8) : Option String := String.fromUTF8? ⟨body.toArray⟩

/-- What a body holds, read by an outline and decoded. -/
def held {α : Type} (outline : Json.Outline) (decode : Json → Wire.Decoded α)
    (body : List UInt8) : Option α :=
  ((textOf? body).bind (Json.readAs? outline)).bind fun j => (decode j).toOption

/-- The answer that a body holds. -/
def answerIn : (q : Client.Request) → List UInt8 → Option q.Answer
  | .create _ => held .whole Research.Creation.decode
  | .status _ => held stateOutline Research.State.decode
  | .generate _ _ => held .whole Wire.value

/-- The text of bytes, with a mark for each part that is no text. -/
def lossyText : (fuel : Nat) → List UInt8 → List Char
  | 0, _ => []
  | _ + 1, [] => []
  | fuel + 1, b :: rest =>
    let size := if b < 0x80 then 1 else if b < 0xE0 then 2 else if b < 0xF0 then 3 else 4
    match textOf? ((b :: rest).take size) with
    | some s => s.toList ++ lossyText fuel ((b :: rest).drop size)
    | none =>
      -- the longest beginning of a character counts as one mark
      let isMore (c : UInt8) : Bool := 0x80 ≤ c && c < 0xC0
      let isSecond (c : UInt8) : Bool :=
        if b = 0xE0 then 0xA0 ≤ c && c < 0xC0
        else if b = 0xED then 0x80 ≤ c && c < 0xA0
        else if b = 0xF0 then 0x90 ≤ c && c < 0xC0
        else if b = 0xF4 then 0x80 ≤ c && c < 0x90
        else isMore c
      let started := 0xC2 ≤ b && b ≤ 0xF4 && (rest.head?.map isSecond).getD false
      let dropped :=
        if started then 1 + (((rest.drop 1).take (size - 2)).takeWhile isMore).length else 0
      '\uFFFD' :: lossyText fuel (rest.drop dropped)

/-! ## Answers -/

/-- The error of a success that does not hold what was asked for. -/
def undecodable : Client.Error := .invalidResponse "error decoding response body"

/-- What an answer means for a request. -/
def conclude (q : Client.Request) (status : Nat) (body : List UInt8) (complete : Bool) :
    Except Client.Error q.Answer :=
  if isSuccess status then
    match if complete then answerIn q body else none with
    | some a => .ok a
    | none => .error undecodable
  else
    let text := if complete then lossyText (body.length + 1) body else []
    .error (apiError status (String.ofList text))

/-- What a network makes of each message, and how long it takes. -/
abbrev Network := Client.Tally → Message → Exchange × Nat

/-- A network in which nothing is ever reached. -/
def Network.unreachable : Network := fun _ _ => (.refused, 0)

/-- The reply to a request whose message was sent. -/
def replyOf (q : Client.Request) (u : Url) (timeout : Duration) (x : Exchange) (latency : Nat) :
    Client.Reply q.Answer :=
  match x with
  | .refused => ⟨false, some (min latency timeout.nanos), true, some (.error (notSent u))⟩
  | .silent => ⟨false, some timeout.nanos, true, some (.error (notSent u))⟩
  | .answered status body complete =>
    if timeout.nanos ≤ latency ∧ 0 < latency then
      ⟨false, some timeout.nanos, true, some (.error (notSent u))⟩
    else ⟨false, some latency, true, some (conclude q status body complete)⟩

/-- The client that a network makes up. A job whose address cannot be built
is refused before the signal is looked at. -/
def client (base : String) (timeout : Duration) (network : Network) : Client :=
  ⟨fun t q =>
    match messageOf base q with
    | .error (.invalidRequest message) => .now (.error (.invalidRequest message))
    | .error e => ⟨false, some 0, true, some (.error e)⟩
    | .ok message =>
      let (x, latency) := network t message
      replyOf q message.url timeout x latency⟩

end Http

end Amanuensis
