import Amanuensis.Json.Writer
import Amanuensis.Tool.Handler
/-!
# Routines

Handlers that are given as lists of steps: report, wait, cancel, answer.
Every handler without a state of its own between calls can be written in
this way as far as its calls can be seen from outside. After its last step
a routine answers with an empty text.
-/


namespace Amanuensis

namespace Tool

/-- A step of a routine. -/
inductive Routine.Step where
  | report (p : Progress)
  | sleep (span : Nat)
  /-- The caller's signal is cancelled. -/
  | cancel
  /-- Waits until the call's own signal is cancelled. -/
  | awaitSignal
  /-- Waits without end. -/
  | never
  /-- Answers with a parameter of the call. -/
  | echo (param : String)
  | settle (v : Verdict)
deriving DecidableEq, Repr

/-- A routine under way: the parameters of the call and the steps left. -/
structure Routine where
  params : Json
  steps : List Routine.Step
deriving DecidableEq, Repr

namespace Routine

/-- A parameter as a text: a string as it is, any other value in its
compact form. -/
def echoed (params : Json) (param : String) : String :=
  match (params.get? param).getD .null with
  | .str s => s
  | j => j.compact

/-- The next move of a routine. -/
def step (r : Routine) : Task.Move Routine Progress Verdict :=
  match r.steps with
  | [] => .settle (.output (.text ""))
  | s :: rest =>
    let next : Routine := ⟨r.params, rest⟩
    match s with
    | .report p => .report p next
    | .sleep span => .wait (some span) false fun _ => next
    | .cancel => .cancel next
    | .awaitSignal => .wait none true fun _ => next
    | .never => .wait none false fun _ => next
    | .echo param => .settle (.output (.text (echoed r.params param)))
    | .settle v => .settle v

end Routine

/-- The handlers that follow routines, each under the name of its tool. -/
def Handlers.ofRoutines (routines : List (String × List Routine.Step)) : Handlers Routine :=
  ⟨fun tool params => ⟨params, (routines.lookup tool).getD []⟩, fun _ _ r => r.step⟩

end Tool

end Amanuensis
