import Amanuensis.Invocation.Audit
import Amanuensis.Invocation.Context
import Amanuensis.Match.Route
import Amanuensis.Task.Run
/-!
# Calls

A tool is called by name with parameters, or by a free text from which
tool and parameters follow. Before the handler is entered the tool is
looked up, the parameters are checked and the signal is looked at, in this
order. The handler is then raced against the caller's signal and the
deadline. Whatever comes first is made an answer or a failure; what was
lent to the handler is withdrawn, the audit record is written, and the last
hook is told the outcome.

What happens on the way is the `trace`, in order.
-/


namespace Amanuensis

namespace Invocation

/-- Something that happens in the course of a call. -/
inductive Happening where
  /-- The start hook was told. -/
  | started
  /-- The handler was entered. -/
  | entered (tool : String) (params : Json)
  /-- The handler asked something of the service. -/
  | asked (request : Client.Request) (time : Instant)
  /-- The progress hook was told. -/
  | progressed (p : Tool.Progress) (time : Instant)
  /-- The audit record was written. -/
  | audited (a : Audit)
  /-- The last hook was told of an answer. -/
  | completed (o : Tool.Output)
  /-- The last hook was told of a failure. -/
  | failed (f : Failure)
deriving DecidableEq, Repr

/-- What a call comes to. -/
structure Report where
  trace : List Happening
  /-- The answer or the failure; nothing if the call never returns. -/
  answer : Option (Except Failure Tool.Output)
  /-- Where things stand when the call returns. -/
  moment : Task.Moment
  /-- What was lent to the handler, if the start hook was told. -/
  loan : Option Loan

/-- The tools that may be called and what answers them. -/
structure Invoker (σ : Type) where
  router : Match.Router
  handlers : Tool.Handlers σ
  /-- The deadline of calls whose context has none. -/
  defaultTimeout : Option Duration

/-- A hook is told, and may cancel the caller's signal. -/
def tell (hook : Option Bool) (h : Happening) (m : Task.Moment) : List Happening × Task.Moment :=
  match hook with
  | none => ([], m)
  | some cancels => ([h], if cancels then m.cancel else m)

/-- The happening that an effect of a handler is. -/
def happeningOf : Task.Effect Tool.Progress → Happening
  | .asked request time => .asked request time
  | .reported p time => .progressed p time

/-! ## The handler's part -/

/-- What the handler's part of a call comes to, before the answer is held
against the declared kind. -/
structure Course where
  trace : List Happening
  answer : Option (Except Failure Tool.Output)
  moment : Task.Moment

/-- The failure of a call that lost to a rival. -/
def rivalFailure (tool : String) (timeout : Option Duration) : Task.Rival → Failure
  | .signal => .cancelled tool
  | .deadline => .timeout tool (timeout.getD (.ofNanos 0))

/-- What a call is answered with when its run is over. -/
def answerOf (t : Tool) (timeout : Option Duration) :
    Task.Outcome Tool.Verdict → Option (Except Failure Tool.Output)
  | .settled v => some (v.normalize t)
  | .lost rival => some (.error (rivalFailure t.name timeout rival))
  | .stuck | .unfinished => none

/-- Races the handler against the signal and the deadline. A rival that is
there already keeps the handler from being entered. -/
def raceHandler {σ : Type} (handlers : Tool.Handlers σ) (client : Client) (moves : Nat) (t : Tool)
    (params : Json) (c : Context) (timeout : Option Duration) (reporter : Reporter)
    (m : Task.Moment) : Course :=
  let race := Task.Race.against (timeout.map fun d => m.after d.nanos)
  match race.lost m c.signalled (some m.now) with
  | some (_, rival) => ⟨[], some (.error (rivalFailure t.name timeout rival)), m⟩
  | none =>
    let setting : Task.Setting Tool.Progress := ⟨client, c.signalled, reporter.listener⟩
    let run := (handlers.task t.name params).run setting race moves m
    ⟨.entered t.name params :: run.effects.map happeningOf, answerOf t timeout run.outcome,
      run.moment⟩

/-! ## Whole calls -/

namespace Report

/-- The reporter that was lent to the handler. -/
def reporter (r : Report) : Option Reporter := r.loan.map Loan.reporter

/-- Is the signal that was lent to the handler cancelled? -/
def signalCancelled (r : Report) : Option Bool := r.loan.map fun l => l.isCancelled r.moment

/-- A call that is refused before the start hook is told. -/
def refused (f : Failure) (m : Task.Moment) : Report := ⟨[], some (.error f), m, none⟩

/-- The audit record and the last hook of a call that returns. -/
def close (r : Report) (tool : String) (params : Json) (c : Context) : Report :=
  match r.answer with
  | none => r
  | some answer =>
    let (told, m) :=
      match answer with
      | .ok o => tell c.onComplete (.completed o) r.moment
      | .error f => tell c.onError (.failed f) r.moment
    { r with trace := r.trace ++ .audited (.of tool params answer) :: told, moment := m }

end Report

namespace Invoker

variable {σ : Type}

def registry (i : Invoker σ) : Tool.Registry := i.router.registry

/-- A call up to its answer. -/
def perform (i : Invoker σ) (client : Client) (moves : Nat) (name : String) (params : Json)
    (c : Context) (m : Task.Moment) : Report :=
  match i.registry.get? name with
  | none => .refused (.toolNotFound name) m
  | some t =>
    match t.check params with
    | .error f => .refused f m
    | .ok () =>
      if m.cancelled c.signalled then .refused (.cancelled name) m
      else
        let loan := Loan.ofContext c
        let timeout := c.timeout <|> i.defaultTimeout
        let (told, started) := tell c.onStart .started m
        let course := raceHandler i.handlers client moves t params c timeout loan.reporter started
        match course.answer with
        | none => ⟨told ++ course.trace, none, course.moment, some loan⟩
        | some answer => ⟨told ++ course.trace, some answer, course.moment, some loan.withdraw⟩

/-- Calls a tool. The listener's count of progress begins anew. -/
def invoke (i : Invoker σ) (client : Client) (moves : Nat) (name : String) (params : Json)
    (c : Context) (m : Task.Moment) : Report :=
  (i.perform client moves name params c { m with heard := 0 }).close name params c

/-- Calls the tool that a free text calls for, if there is one. -/
def dispatch (i : Invoker σ) (client : Client) (moves : Nat) (input : String) (c : Context)
    (m : Task.Moment) : Option Match.Route × Report :=
  match i.router.resolve input with
  | none =>
    let (told, m) := tell c.onError (.failed .noToolMatches) m
    (none, ⟨told, some (.error .noToolMatches), m, none⟩)
  | some route => (some route, i.invoke client moves route.tool.name (route.params input) c m)

end Invoker

end Invocation

end Amanuensis
