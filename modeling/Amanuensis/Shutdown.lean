/-!
# Shutting down

A program that is asked to stop cancels everything at once. The manager
hands out signals that all descend from one root, and further signals may
descend from these. Cancelling a signal reaches its descendants and never
its ancestors. A shutdown first records its reason, unless one is recorded
already, and then cancels the root; these are two steps, between which
others may act, so `Event` keeps them apart.
-/


namespace Amanuensis

namespace Shutdown

/-- Why the program stops. -/
inductive Reason where
  /-- The user interrupted it. -/
  | user
  /-- It was told to terminate. -/
  | signal
deriving DecidableEq, Repr

def Reason.text : Reason → String
  | .user => "interrupted by user"
  | .signal => "terminated by signal"

/-- A signal that was handed out. Others are named by their places in the
order in which they were handed out. -/
structure Signal where
  /-- The signals it descends from, the root apart. -/
  above : List Nat
  /-- Was it cancelled itself? -/
  cancelled : Bool
deriving DecidableEq, Repr

/-- What happens to a manager. -/
inductive Event where
  /-- A signal is handed out. -/
  | token
  /-- A signal that descends from another is handed out. -/
  | child (parent : Nat)
  | cancel (signal : Nat)
  /-- The first step of a shutdown. -/
  | record (reason : Reason)
  /-- The second step of a shutdown. -/
  | cancelRoot
deriving DecidableEq, Repr

end Shutdown

/-- A shutdown manager with the signals that it has handed out. -/
structure Shutdown where
  reason : Option Shutdown.Reason
  rootCancelled : Bool
  signals : List Shutdown.Signal
deriving DecidableEq, Repr

namespace Shutdown

/-- A manager that nothing has happened to. -/
def new : Shutdown := ⟨none, false, []⟩

/-- Has the program been shut down? -/
def isShutdown (s : Shutdown) : Bool := s.rootCancelled

/-- Was a signal cancelled itself? -/
def isCancelledItself (s : Shutdown) (i : Nat) : Bool :=
  match s.signals[i]? with
  | some signal => signal.cancelled
  | none => false

/-- The signals that a signal descends from, itself included. -/
def line (s : Shutdown) (i : Nat) : List Nat :=
  match s.signals[i]? with
  | some signal => i :: signal.above
  | none => []

/-- Is a signal cancelled, by itself or by one that it descends from? -/
def isCancelled (s : Shutdown) (i : Nat) : Bool :=
  s.rootCancelled || (s.line i).any s.isCancelledItself

/-- Hands out one more signal. -/
def handOut (s : Shutdown) (above : List Nat) : Shutdown :=
  { s with signals := s.signals ++ [⟨above, false⟩] }

/-- The manager after an event. -/
def apply (s : Shutdown) : Event → Shutdown
  | .token => s.handOut []
  | .child parent => s.handOut (s.line parent)
  | .cancel i => { s with signals := s.signals.modify i fun g => { g with cancelled := true } }
  | .record reason => { s with reason := s.reason <|> some reason }
  | .cancelRoot => { s with rootCancelled := true }

/-- The manager after some events. -/
def applyAll (s : Shutdown) (events : List Event) : Shutdown := events.foldl apply s

/-- Shuts the program down. -/
def shutdown (s : Shutdown) (reason : Reason) : Shutdown := s.applyAll [.record reason, .cancelRoot]

/-- Which of the signals are cancelled, in the order in which they were
handed out. -/
def cancelledSignals (s : Shutdown) : List Bool := (List.range s.signals.length).map s.isCancelled

end Shutdown

end Amanuensis
