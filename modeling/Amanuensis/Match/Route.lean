import Amanuensis.Match.Score
import Amanuensis.Match.Trigger
import Amanuensis.Tool.Registry
/-!
# Routes

From a free text to the tool it calls for. A tool is called for by the
first of its phrases that fits the text at all; its score must reach the
router's threshold. `Router.rank` lists these routes, the best first and
those of one score in the order of registration, and `Router.resolve`
takes the first.
-/


namespace Amanuensis

namespace Match

/-- A tool that a text calls for, and the phrase by which it does. -/
structure Route where
  tool : Tool
  phrase : String
  score : Score
deriving DecidableEq, Repr

namespace Route

/-- The score as the double that is compared. -/
def number (r : Route) : Binary64 := r.score.number

/-- What is left of the text when the phrase is dropped. -/
def text (r : Route) (input : String) : String :=
  String.ofList (stripTrigger r.phrase.toList input.toList)

/-- The parameters of a call by free text: the text in the tool's primary
parameter. -/
def params (r : Route) (input : String) : Json :=
  .ofMembers (r.tool.primary.toList.map fun key => (key, some (.str (r.text input))))

end Route

/-- The route of the first phrase that fits the text. -/
def firstRoute (t : Tool) (input : String) : (phrases : List String) → Option Route
  | [] => none
  | phrase :: rest =>
    match score input phrase with
    | some s => some ⟨t, phrase, s⟩
    | none => firstRoute t input rest

/-- The route from a text to a tool, if one of the tool's phrases fits. -/
def route? (t : Tool) (input : String) : Option Route := firstRoute t input t.phrases

/-- The tools that may be called for, and the least score that counts. -/
structure Router where
  registry : Tool.Registry
  minScore : Binary64

namespace Router

/-- The least score unless another is given. -/
def defaultMinScore : Binary64 := hundredths 50

/-- A router with a threshold, which is held between zero and one. A NaN is
reached by no score. -/
def new (registry : Tool.Registry) (minScore : Binary64) : Router :=
  ⟨registry, minScore.clamp (hundredths 0) (hundredths 100)⟩

/-- The router with the threshold that is usual. -/
def standard (registry : Tool.Registry) : Router := ⟨registry, defaultMinScore⟩

/-- Does the route reach the threshold? -/
def admits (r : Router) (route : Route) : Bool := r.minScore.le route.number

/-- Does the first route stand before the second, or at least not after
it? -/
def notAfter (a b : Route) : Bool := decide (b.number.orderKey ≤ a.number.orderKey)

/-- The routes from a text, the best first, those of one score in the order
of registration. -/
def rank (r : Router) (input : String) : List Route :=
  ((r.registry.tools.filterMap (route? · input)).filter r.admits).mergeSort notAfter

/-- The best route from a text. -/
def resolve (r : Router) (input : String) : Option Route := (r.rank input).head?

end Router

end Match

end Amanuensis
