import Amanuensis.Client.Error
import Amanuensis.Research.Job
/-!
# Requests

What a task may ask of the service, and how the service behaves. A
`Client` says for every request, from the number of requests of its kind
that went before, which reply comes and when. Nothing else is known of the
service: a statement about every client is one about every service,
connection and delay.
-/


namespace Amanuensis

/-- A point in time, in nanoseconds from some start. -/
abbrev Instant := Nat

namespace Client

/-- What may be asked of the service. -/
inductive Request where
  /-- A research job is ordered. -/
  | create (order : Research.Order)
  /-- The state of a job is asked for. -/
  | status (jobId : String)
  /-- Something is generated by an endpoint. -/
  | generate (endpoint : String) (body : Json)
deriving DecidableEq, Repr

/-- What a usable answer holds. -/
def Request.Answer : Request → Type
  | .create _ => Research.Creation
  | .status _ => Research.State
  | .generate _ _ => Json

/-- How the service and the connection to it behave on one request. -/
structure Reply (α : Type) where
  /-- Is the caller's signal cancelled while the request arrives? -/
  cancels : Bool
  /-- How long it takes until the ending; forever if there is no span. -/
  delay : Option Nat
  /-- Is the request given up as cancelled when the signal is cancelled
  during the delay? -/
  heeds : Bool
  /-- The answer; without one the request stays open until the signal is
  cancelled, and is given up then. -/
  ending : Option (Except Error α)

/-- A reply that comes at once. -/
def Reply.now {α : Type} (answer : Except Error α) : Reply α := ⟨false, some 0, false, some answer⟩

/-- How many requests of each kind have been made. -/
structure Tally where
  creations : Nat
  statuses : Nat
  generations : Nat
deriving DecidableEq, Repr

namespace Tally

def zero : Tally := ⟨0, 0, 0⟩

/-- The tally with one more request. -/
def count (t : Tally) : Request → Tally
  | .create _ => { t with creations := t.creations + 1 }
  | .status _ => { t with statuses := t.statuses + 1 }
  | .generate _ _ => { t with generations := t.generations + 1 }

/-- How many requests have been made. -/
def total (t : Tally) : Nat := t.creations + t.statuses + t.generations

end Tally

end Client

/-- The behaviour of the service and the connection to it. -/
structure Client where
  reply : Client.Tally → (q : Client.Request) → Client.Reply q.Answer

namespace Client

/-- A client in which the replies to requests of each kind are laid down
one after the other. -/
def ofSequences (creations : Nat → Reply Research.Creation) (statuses : Nat → Reply Research.State)
    (generations : Nat → Reply Json) : Client :=
  ⟨fun t q =>
    match q with
    | .create _ => creations t.creations
    | .status _ => statuses t.statuses
    | .generate _ _ => generations t.generations⟩

/-- The replies of a list one after the other, and one reply again and
again after these. -/
def sequence {α : Type} (replies : List (Reply α)) (after : Reply α) (n : Nat) : Reply α :=
  replies[n]?.getD after

end Client

end Amanuensis
