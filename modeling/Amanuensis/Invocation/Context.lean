import Amanuensis.Duration
import Amanuensis.Task.Moment
import Amanuensis.Tool.Handler
/-!
# Contexts of calls

What a caller gives along with a call: a signal by which the call can be
cancelled, a deadline, and hooks. A hook is told of something, and may
cancel the caller's signal when it is. The progress hook is reached through
a `Reporter`, which is lent to the handler together with a signal of its own
(`Loan`). The handler may copy both and hand the copies on, and whoever holds
one acts on the same loan; when the call is over it is withdrawn, and what is
reported after that reaches nobody.
-/


namespace Amanuensis

namespace Invocation

/-- A hook that is told of progress: whether it cancels the caller's signal
at the report with a given number. -/
abbrev ProgressHook := Nat → Tool.Progress → Bool

/-- What a caller gives along with a call. Each of the simple hooks, if
there is one, either cancels the caller's signal or does not. -/
structure Context where
  /-- Is the call given the caller's signal? -/
  signalled : Bool
  timeout : Option Duration
  onStart : Option Bool
  onProgress : Option ProgressHook
  onComplete : Option Bool
  onError : Option Bool

namespace Context

/-- Nothing is given. -/
def bare : Context := ⟨false, none, none, none, none, none⟩

/-- The context in one line, for logs. -/
def text (c : Context) : String :=
  let timeout :=
    match c.timeout with
    | some d => "Some(" ++ d.text ++ ")"
    | none => "None"
  "ExecutionContext \x7b signal: " ++ toString c.signalled ++ ", timeout: " ++ timeout ++
    ", on_start: " ++ toString c.onStart.isSome ++ ", on_progress: " ++
    toString c.onProgress.isSome ++ ", on_complete: " ++ toString c.onComplete.isSome ++
    ", on_error: " ++ toString c.onError.isSome ++ " \x7d"

end Context

/-! ## Reporters -/

/-- What a handler reports its progress to. -/
structure Reporter where
  hook : Option ProgressHook
  closed : Bool

namespace Reporter

/-- A reporter that reaches nobody. -/
def silent : Reporter := ⟨none, false⟩

/-- The reporter for a call. -/
def ofContext (c : Context) : Reporter := ⟨c.onProgress, false⟩

/-- The hook that hears what is reported now. -/
def listener (r : Reporter) : Option ProgressHook := if r.closed then none else r.hook

/-- The progress that reaches the hook when something is reported. -/
def report (r : Reporter) (p : Tool.Progress) : Option Tool.Progress := r.listener.map fun _ => p

def close (r : Reporter) : Reporter := { r with closed := true }

/-- The reporter in one line, for logs. -/
def text (r : Reporter) : String := "ProgressReporter \x7b closed: " ++ toString r.closed ++ " \x7d"

end Reporter

/-! ## Loans -/

/-- What a call lends its handler. All copies are of one loan. -/
structure Loan where
  reporter : Reporter
  /-- Does the signal descend from a signal of the caller? -/
  descends : Bool
  /-- Has the signal been cancelled itself? -/
  cancelled : Bool

namespace Loan

/-- What the holder of a copy does. -/
inductive Act where
  /-- Progress is reported. -/
  | report (p : Tool.Progress)
  /-- The signal is cancelled. -/
  | cancel

/-- What comes of acts. -/
structure Aftermath where
  /-- What the progress hook was told. -/
  heard : List (Tool.Progress × Instant)
  loan : Loan
  moment : Task.Moment

/-- The loan of a call that begins. -/
def ofContext (c : Context) : Loan := ⟨.ofContext c, c.signalled, false⟩

/-- Is the signal cancelled, by itself or with the caller's? -/
def isCancelled (l : Loan) (m : Task.Moment) : Bool := l.cancelled || m.cancelled l.descends

/-- Cancelling the signal does not reach the one that it descends from. -/
def cancel (l : Loan) : Loan := { l with cancelled := true }

/-- The signal is cancelled and the reporter is closed. -/
def withdraw (l : Loan) : Loan := { l.cancel with reporter := l.reporter.close }

/-- What comes of an act. The hook may cancel the caller's signal when it is
told. -/
def act (l : Loan) (m : Task.Moment) : Act → Aftermath
  | .report p =>
    match l.reporter.listener with
    | none => ⟨[], l, m⟩
    | some cancels =>
      let heard := { m with heard := m.heard + 1 }
      ⟨[(p, m.now)], l, if cancels m.heard p then heard.cancel else heard⟩
  | .cancel => ⟨[], l.cancel, m⟩

/-- What comes of acts one after the other, whoever they are by. -/
def acts (l : Loan) (m : Task.Moment) : List Act → Aftermath
  | [] => ⟨[], l, m⟩
  | a :: rest =>
    let first := l.act m a
    let later := first.loan.acts first.moment rest
    { later with heard := first.heard ++ later.heard }

end Loan

end Invocation

end Amanuensis
