import Amanuensis.Failure
import Amanuensis.Json.Writer
/-!
# Audit records

The line that every call of a tool leaves behind, whether it succeeded or
not: the tool, the outcome and a preview of the parameters.
-/


namespace Amanuensis

namespace Invocation

/-- The record of a call. -/
structure Audit where
  tool : String
  ok : Bool
  outcome : String
  preview : String
deriving DecidableEq, Repr

namespace Audit

/-- The outcome of a call that succeeded. -/
def success : String := "OK"

/-- How long a preview may be. -/
def previewLength : Nat := 200

/-- The parameters of a call in short: their compact form, cut where it
takes too many bytes. -/
def previewOf (params : Json) : String :=
  let text := params.compact
  if previewLength < text.utf8ByteSize then
    String.ofList (text.toList.take previewLength) ++ "..."
  else text

/-- The record of a call that is answered. -/
def of {α : Type} (tool : String) (params : Json) (answer : Except Failure α) : Audit :=
  match answer with
  | .ok _ => ⟨tool, true, success, previewOf params⟩
  | .error f => ⟨tool, false, f.code, previewOf params⟩

def encode (a : Audit) : Json :=
  .ofMembers [("event", some (.str "tool_audit")), ("tool", some (.str a.tool)),
    ("ok", some (.bool a.ok)), ("outcome", some (.str a.outcome)),
    ("args_preview", some (.str a.preview))]

end Audit

end Invocation

end Amanuensis
