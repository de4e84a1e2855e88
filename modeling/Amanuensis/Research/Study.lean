import Amanuensis.Research.Poll
import Amanuensis.Text.Blank
/-!
# Studies

Research from end to end: the job is ordered, and unless the service has
the report at once, it is polled. A blank question is refused and a
cancelled signal respected before anything is asked. The order does not
heed the signal; a job that was queued while the signal was cancelled is
not polled even once, because a poll looks at the signal first.
-/


namespace Amanuensis

namespace Research

namespace Study

/-- What is to be found out, and how. -/
structure Plan where
  query : String
  depth : Option Depth
  aids : List Aid
  options : Poll.Options
deriving DecidableEq, Repr

/-- The question without white space around it. -/
def Plan.question (p : Plan) : String := String.ofList (Text.trim p.query.toList)

/-- The order for the job. -/
def Plan.order (p : Plan) : Order := ⟨p.question, p.depth, p.aids⟩

/-- The states of a study. -/
inductive Machine where
  | begin
  /-- The order was made at some instant and is over. -/
  | ordered (startedAt : Instant) (answer : Option (Except Client.Error Creation))
  | polling (poll : Poll.Machine)

/-- The moves of a study. -/
abbrev Move := Task.Move Machine Poll.Event (Except Failure Poll.Finding)

/-- The moves of the poll in a study. -/
def polled (m : Poll.Move) : Move := m.map .polling id id

/-- The next move of a study. -/
def step (p : Plan) (now : Instant) (cancelled : Bool) : Machine → Move
  | .begin =>
    if p.question.isEmpty then .settle (.error (.validation "Query is required"))
    else if cancelled then .settle (.error .pollingCancelled)
    else .ask (.create p.order) false fun answer => .ordered now answer
  | .ordered _ none | .ordered _ (some (.error .cancelled)) => .settle (.error .pollingCancelled)
  | .ordered _ (some (.error e)) => .settle (.error e.toFailure)
  | .ordered startedAt (some (.ok (.completed report))) =>
    .settle (.ok ⟨report, 0, .ofNanos (now - startedAt)⟩)
  | .ordered _ (some (.ok (.queued jobId _))) =>
    polled (Poll.step p.options now cancelled (Poll.start p.options jobId now))
  | .polling poll => polled (Poll.step p.options now cancelled poll)

end Study

/-- The task of a study. -/
def study (p : Study.Plan) : Task Study.Machine Poll.Event (Except Failure Poll.Finding) :=
  ⟨.begin, Study.step p⟩

end Research

end Amanuensis
