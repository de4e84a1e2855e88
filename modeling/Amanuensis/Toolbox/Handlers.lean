import Amanuensis.Generation.Order
import Amanuensis.Research.Study
import Amanuensis.Tool.Handler
import Amanuensis.Toolbox.Catalog
/-!
# The handlers of the built-in tools

What the built-in tools do when they are called. Each reads its parameters
first. Research is a study whose events are passed on as progress and whose
report is answered as a text; images and documents are one order each.
-/


namespace Amanuensis

namespace Toolbox

/-- The states of a built-in handler. -/
inductive Machine where
  /-- The parameters have not been read. -/
  | begin (tool : String) (params : Json)
  | studying (plan : Research.Study.Plan) (study : Research.Study.Machine)
  /-- The notice of an order has been reported. -/
  | noticed (order : Generation.Order)
  /-- The request of an order is over. -/
  | generated (order : Generation.Order) (answer : Option (Except Client.Error Json))

/-- The moves of a built-in handler. -/
abbrev Move := Task.Move Machine Tool.Progress Tool.Verdict

/-- The progress that tells an event of a poll. -/
def progressOf (e : Research.Poll.Event) : Tool.Progress :=
  let message := e.status.text ++ " (poll " ++ toString e.count ++ ")"
  match e.progress with
  | none => ⟨message, none⟩
  | some p =>
    match p.step with
    | none => ⟨message, p.percentage⟩
    | some step => ⟨message ++ ": " ++ step, p.percentage⟩

/-- The verdict of a failure or an output. -/
def verdictOf : Except Failure Tool.Output → Tool.Verdict
  | .ok o => .output o
  | .error f => .failure f []

/-- The verdict on a study. -/
def findingVerdict : Except Failure Research.Poll.Finding → Tool.Verdict
  | .ok finding => .output (.text finding.report.markdown)
  | .error f => .failure f []

/-- The moves of the study in a call. -/
def studied (plan : Research.Study.Plan) (m : Research.Study.Move) : Move :=
  m.map (.studying plan) progressOf findingVerdict

/-- The plan of a study, from what the caller asks. -/
def planOf (options : Research.Poll.Options) (i : Research.Inquiry) : Research.Study.Plan :=
  ⟨i.query, i.depth, [], options⟩

/-- Begins an order: its notice, unless the parameters could not be
read. -/
def beginOrder : Except Failure Generation.Order → Move
  | .ok order => .report ⟨order.notice, none⟩ (.noticed order)
  | .error f => .settle (.failure f [])

/-- The next move of a built-in handler. Studies poll with the given
options. -/
def step (options : Research.Poll.Options) (now : Instant) (cancelled : Bool) : Machine → Move
  | .begin tool params =>
    if tool = research.name then
      match Tool.readParams tool Research.Inquiry.decode params with
      | .ok i =>
        studied (planOf options i) (Research.Study.step (planOf options i) now cancelled .begin)
      | .error f => .settle (.failure f [])
    else if tool = image.name then
      beginOrder ((Tool.readParams tool Generation.ImageOrder.decode params).map .image)
    else if tool = document.name then
      beginOrder ((Tool.readParams tool Generation.DocumentOrder.decode params).map .document)
    else .settle (.failure (.toolNotFound tool) [])
  | .studying plan study => studied plan (Research.Study.step plan now cancelled study)
  | .noticed order =>
    .ask (.generate order.endpoint order.body) false fun answer => .generated order answer
  | .generated order (some (.ok answer)) => .settle (verdictOf (order.output answer))
  | .generated _ (some (.error e)) => .settle (.failure e.toFailure [])
  | .generated _ none => .settle (.failure Client.Error.cancelled.toFailure [])

/-- The handlers of the built-in tools. -/
def handlers (options : Research.Poll.Options) : Tool.Handlers Machine := ⟨.begin, step options⟩

end Toolbox

end Amanuensis
