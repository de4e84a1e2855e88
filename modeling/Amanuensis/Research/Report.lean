import Amanuensis.Wire.Decode
/-!
# Research reports

What a finished research job brings: a text, the sources that it cites and
the steps of its reasoning. `Report.markdown` is the form in which a reader
gets it, the text followed by a numbered list of the sources that have a
title or an address.
-/


namespace Amanuensis

namespace Research

open Wire

/-- A source that a report cites. The service may say more about it than
its title and its address. -/
structure Citation where
  title : Option String
  url : Option String
  /-- What else is said, in the order of the keys. -/
  extra : List (String × Json)
deriving DecidableEq, Repr

namespace Citation

/-- The members that are neither title nor address, in the order of their
keys. -/
def extraMembers (members : List (String × Json)) : List (String × Json) :=
  members.foldl
    (fun done m =>
      if m.1 = "title" ∨ m.1 = "url" then done else Json.insertMember m.1 m.2.normal done) []

def decode : Json → Decoded Citation
  | .obj members =>
    let fields := [Field.optional "title" (nullable string), Field.optional "url" (nullable string)]
    match checkMembers fields [] members with
    | .error e => .error e
    | .ok () => do
      let title ← fieldOr members "title" (nullable string) none
      let url ← fieldOr members "url" (nullable string) none
      return ⟨title, url, extraMembers members⟩
  | j => .error (.kind j "struct Citation")

def encode (c : Citation) : Json :=
  .ofMembers ([("title", c.title.map .str), ("url", c.url.map .str)] ++
    c.extra.map fun m => (m.1, some m.2))

/-- The source as an entry of the list, if there is anything to show. -/
def entry (c : Citation) : Option String :=
  match c.title, c.url with
  | some title, some url => some ("[" ++ title ++ "](" ++ url ++ ")")
  | none, some url => some url
  | some title, none => some title
  | none, none => none

end Citation

/-- A finished piece of research. -/
structure Report where
  text : String
  citations : List Citation
  /-- The steps of the reasoning, in whatever form the service gives. -/
  reasoning : List Json
deriving DecidableEq, Repr

namespace Report

def fields : List Field :=
  [.needed "text" string, .optional "citations" (list Citation.decode),
    .optional "reasoningSteps" (list value)]

def decode (j : Json) : Decoded Report := do
  let members ← record "ResearchResult" fields j
  let text ← field members "text" string
  let citations ← fieldOr members "citations" (list Citation.decode) []
  let reasoning ← fieldOr members "reasoningSteps" (list value) []
  return ⟨text, citations, reasoning⟩

def encode (r : Report) : Json :=
  .ofMembers [("text", some (.str r.text)),
    ("citations", some (.arr (r.citations.map Citation.encode))),
    ("reasoningSteps", some (.arr r.reasoning))]

/-- The lines of a numbered list, the first with a given number. -/
def numbered (n : Nat) : List String → String
  | [] => ""
  | entry :: rest => toString n ++ ". " ++ entry ++ "\n" ++ numbered (n + 1) rest

/-- The heading above the sources. -/
def sourcesHeading : String := "\n\n## Sources\n"

/-- The text, followed by the sources that can be shown. -/
def markdown (r : Report) : String :=
  match r.citations.filterMap Citation.entry with
  | [] => r.text
  | entries => r.text ++ sourcesHeading ++ numbered 1 entries

end Report

end Research

end Amanuensis
