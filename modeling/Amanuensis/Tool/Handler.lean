import Amanuensis.Task.Move
import Amanuensis.Tool.Basic
/-!
# Handlers

What answers a call of a tool. A handler is a task that reports progress
and settles with a `Verdict`: an answer, one of the failures of this
library that may have been wrapped on the way, some other error with its
causes, or a breakdown. `Verdict.normalize` makes an answer or a failure of
each of these, and holds an answer against the kind that the tool declares.
-/


namespace Amanuensis

namespace Tool

/-- What a handler reports while it runs. -/
structure Progress where
  message : String
  percentage : Option Binary64
deriving DecidableEq, Repr

/-- What a handler settles with. -/
inductive Verdict where
  | output (o : Output)
  /-- A failure, and the contexts that were put around it, outermost
  first. -/
  | failure (f : Failure) (contexts : List String)
  /-- Another error: its messages, outermost first. -/
  | error (messages : List String)
  /-- The handler broke down, perhaps with a text. -/
  | breakdown (text : Option String)
deriving DecidableEq, Repr

/-- The text of a breakdown that has none. -/
def unknownBreakdown : String := "unknown panic"

/-- The answer or the failure that a verdict is. A failure of this library
is itself, whatever was put around it. -/
def Verdict.outcome (tool : String) : Verdict → Except Failure Output
  | .output o => .ok o
  | .failure f _ => .error f
  | .error messages => .error (.handler (": ".intercalate messages))
  | .breakdown text =>
    .error (.handler ("Tool '" ++ tool ++ "' panicked: " ++ text.getD unknownBreakdown))

/-- Refuses an answer of another kind than the tool declares. -/
def declared (t : Tool) (name : String) (o : Output) : Except Failure Output :=
  if o.kind = t.kind then .ok o
  else
    .error (.handler ("Tool '" ++ name ++ "' returned a " ++ o.kind.title ++
      " response but declares " ++ t.kind.title))

/-- What a call is answered with, from what the handler settled with. -/
def Verdict.normalize (t : Tool) (v : Verdict) : Except Failure Output :=
  match v.outcome t.name with
  | .ok o => declared t t.name o
  | .error f => .error f

/-- The handlers of all tools, as one machine. -/
structure Handlers (σ : Type) where
  /-- The state in which a handler begins a call. -/
  start : (tool : String) → (params : Json) → σ
  step : Instant → (cancelled : Bool) → σ → Task.Move σ Progress Verdict

/-- The task of a call. -/
def Handlers.task {σ : Type} (h : Handlers σ) (tool : String) (params : Json) :
    Task σ Progress Verdict :=
  ⟨h.start tool params, h.step⟩

end Tool

end Amanuensis
