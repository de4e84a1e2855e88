import Amanuensis.Duration
import Amanuensis.Match.Score
import Amanuensis.Research.Poll
import Amanuensis.Settings.Value
/-!
# Settings

What can be set, in four sections, and how each setting is read from the
merged values. A setting that is absent has its default, whether its
section is there or not. A section may also be given as the list of its
settings in their order.
-/


namespace Amanuensis

/-- The section of the program itself. -/
structure Settings.App where
  name : Option String
deriving DecidableEq, Repr

/-- The section of the service. -/
structure Settings.Api where
  baseUrl : String
  requestTimeoutSeconds : Nat
deriving DecidableEq, Repr

/-- The section of polling, in milliseconds. -/
structure Settings.Polling where
  initialInterval : Nat
  maxInterval : Nat
  maxDuration : Nat
  retryDelay : Nat
  maxRetries : Nat
deriving DecidableEq, Repr

/-- The section of the tools. -/
structure Settings.Tools where
  /-- Zero means that there is no deadline. -/
  timeoutSeconds : Nat
  minMatchScore : Binary64
deriving DecidableEq, Repr

/-- All settings. -/
structure Settings where
  app : Settings.App
  api : Settings.Api
  polling : Settings.Polling
  tools : Settings.Tools
deriving DecidableEq, Repr

namespace Settings

/-- The settings unless others are given. -/
def default : Settings :=
  { app := ⟨none⟩
    api := ⟨"http://localhost:8000", 30⟩
    polling := ⟨5000, 60000, 1800000, 1000, 3⟩
    tools := ⟨0, Match.hundredths 50⟩ }

instance : Inhabited Settings := ⟨default⟩

/-- How jobs are polled under these settings. -/
def Polling.options (p : Polling) : Research.Poll.Options :=
  ⟨.ofMillis p.initialInterval, .ofMillis p.maxInterval, .ofMillis p.maxDuration,
    .ofMillis p.retryDelay, .ofNat p.maxRetries⟩

/-- The deadline of calls under these settings. -/
def Tools.timeout (t : Tools) : Option Duration :=
  if t.timeoutSeconds = 0 then none else some (.ofParts t.timeoutSeconds 0)

/-! ## Sections -/

/-- A section as it is given. -/
structure Section where
  name : String
  given : Value

/-- A section that is not given. -/
def Section.absent (name : String) : Section := ⟨name, .table [] none⟩

/-- What a section is, where it cannot be one. -/
def shapeOf : Value → String
  | .int n _ => "integer \x60" ++ toString n ++ "\x60"
  | .float x _ => "floating point \x60" ++ x.pointText ++ "\x60"
  | v => v.describe

/-- The value of a setting in a section, by its place and its key, and the
key under which a fault is reported. -/
def Section.find (s : Section) (place : Nat) (key : String) : String × Option Value :=
  match s.given with
  | .arr items _ => (s.name ++ "[" ++ toString place ++ "]", items[place]?)
  | v => (s.name ++ "." ++ key, v.entries.lookup key)

/-- A setting, or its default. -/
def Section.read {α : Type} (s : Section) (place : Nat) (key : String)
    (convert : Value → Except Fault α) (default : α) : Except Fault α :=
  match s.find place key with
  | (_, none) => .ok default
  | (key, some v) =>
    match convert v with
    | .ok a => .ok a
    | .error f => .error (f.atKey key)

/-- Refuses a section that is neither a table nor a list. -/
def Section.check (s : Section) (title : String) : Except Fault Unit :=
  match s.given with
  | .table _ _ | .arr _ _ => .ok ()
  | v => .error (.shape ("invalid type: " ++ shapeOf v ++ ", expected struct " ++ title))

/-- The name of the program, which may be set to nothing. -/
def nameOf : Value → Except Fault (Option String)
  | .unit _ => .ok none
  | v => v.toText.map some

def App.read (s : Section) : Except Fault App := do
  s.check "AppSection"
  match s.given with
  | .arr [] _ => throw (.shape "invalid length 0, expected struct AppSection with 1 element")
  | _ => return ⟨← s.read 0 "name" nameOf default.app.name⟩

def Api.read (s : Section) : Except Fault Api := do
  s.check "ApiSection"
  return ⟨← s.read 0 "base_url" Value.toText default.api.baseUrl,
    ← s.read 1 "request_timeout_secs" Value.toNatural default.api.requestTimeoutSeconds⟩

def Polling.read (s : Section) : Except Fault Polling := do
  s.check "PollingSection"
  let d := default.polling
  return ⟨← s.read 0 "initial_interval_ms" Value.toNatural d.initialInterval,
    ← s.read 1 "max_interval_ms" Value.toNatural d.maxInterval,
    ← s.read 2 "max_duration_ms" Value.toNatural d.maxDuration,
    ← s.read 3 "network_retry_delay_ms" Value.toNatural d.retryDelay,
    ← s.read 4 "max_network_retries" Value.toSmallNatural d.maxRetries⟩

def Tools.read (s : Section) : Except Fault Tools := do
  s.check "ToolsSection"
  return ⟨← s.read 0 "tool_timeout_secs" Value.toNatural default.tools.timeoutSeconds,
    ← s.read 1 "min_match_score" Value.toNumber default.tools.minMatchScore⟩

/-- The section of a name among merged values. -/
def sectionOf (es : List (String × Value)) (name : String) : Section :=
  match es.lookup name with
  | some v => ⟨name, v⟩
  | none => .absent name

/-- The settings from the merged values. -/
def ofValues (es : List (String × Value)) : Except Fault Settings := do
  let app ← App.read (sectionOf es "app")
  let api ← Api.read (sectionOf es "api")
  let polling ← Polling.read (sectionOf es "polling")
  let tools ← Tools.read (sectionOf es "tools")
  return ⟨app, api, polling, tools⟩

end Settings

end Amanuensis
