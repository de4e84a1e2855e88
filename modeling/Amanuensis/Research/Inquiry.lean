import Amanuensis.Research.Job
import Amanuensis.Tool.Basic
/-!
# Inquiries

The parameters of the research tool: a question, and perhaps how thorough
the research is to be.
-/


namespace Amanuensis

namespace Research

open Wire

/-- What a caller asks of the research tool. -/
structure Inquiry where
  query : String
  depth : Option Depth
deriving DecidableEq, Repr

namespace Inquiry

def fields : List Field := [.needed "query" string, .optional "depth" (nullable Depth.decode)]

def decode (j : Json) : Decoded Inquiry := do
  let members ← record "DeepResearchParams" fields j
  let query ← field members "query" string
  let depth ← fieldOr members "depth" (nullable Depth.decode) none
  return ⟨query, depth⟩

/-- The parameters as they are published. -/
def schema : Tool.Schema :=
  { title := "DeepResearchParams"
    description := "deep_research 参数"
    properties :=
      [⟨"query", .text, some "研究问题", none⟩,
        ⟨"depth", .nullableChoice "ResearchDepth", some "quick（默认）或 thorough", some .null⟩]
    required := ["query"]
    choices := [⟨"ResearchDepth", some "研究深度", ["quick", "thorough"]⟩] }

end Inquiry

end Research

end Amanuensis
