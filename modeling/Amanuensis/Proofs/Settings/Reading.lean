import Amanuensis.Proofs.Settings.Merge
/-!
# Reading settings

Every `Setting` has a section and a key, a conversion and a default. Where
the section is a table, what is read of it is known setting by setting
(`ofValues_reads`): a setting is what the value under its key converts to, or
its default, and no other key counts. Settings are read if the values of all
of them convert (`exists_ofValues`).
-/


namespace Amanuensis

namespace Settings

/-- What can be set, with what it is set to. -/
inductive Setting : Type → Type
  | name : Setting (Option String)
  | baseUrl : Setting String
  | requestTimeout : Setting Nat
  | initialInterval : Setting Nat
  | maxInterval : Setting Nat
  | maxDuration : Setting Nat
  | retryDelay : Setting Nat
  | maxRetries : Setting Nat
  | toolTimeout : Setting Nat
  | minMatchScore : Setting Binary64

variable {α β : Type} {values : Layer} {settings : Settings}

namespace Setting

/-- The section of a setting. -/
def sec : Setting α → String
  | name => "app"
  | baseUrl | requestTimeout => "api"
  | initialInterval | maxInterval | maxDuration | retryDelay | maxRetries => "polling"
  | toolTimeout | minMatchScore => "tools"

/-- The key of a setting in its section. -/
def key : Setting α → String
  | name => "name"
  | baseUrl => "base_url"
  | requestTimeout => "request_timeout_secs"
  | initialInterval => "initial_interval_ms"
  | maxInterval => "max_interval_ms"
  | maxDuration => "max_duration_ms"
  | retryDelay => "network_retry_delay_ms"
  | maxRetries => "max_network_retries"
  | toolTimeout => "tool_timeout_secs"
  | minMatchScore => "min_match_score"

/-- How a value is made one of the setting. -/
def convert : Setting α → Value → Except Fault α
  | name => nameOf
  | baseUrl => Value.toText
  | requestTimeout | initialInterval | maxInterval | maxDuration | retryDelay | toolTimeout =>
    Value.toNatural
  | maxRetries => Value.toSmallNatural
  | minMatchScore => Value.toNumber

/-- The setting among all of them. -/
def get : Setting α → Settings → α
  | name, settings => settings.app.name
  | baseUrl, settings => settings.api.baseUrl
  | requestTimeout, settings => settings.api.requestTimeoutSeconds
  | initialInterval, settings => settings.polling.initialInterval
  | maxInterval, settings => settings.polling.maxInterval
  | maxDuration, settings => settings.polling.maxDuration
  | retryDelay, settings => settings.polling.retryDelay
  | maxRetries, settings => settings.polling.maxRetries
  | toolTimeout, settings => settings.tools.timeoutSeconds
  | minMatchScore, settings => settings.tools.minMatchScore

/-- All settings. -/
def all : List (Sigma Setting) :=
  [⟨_, name⟩, ⟨_, baseUrl⟩, ⟨_, requestTimeout⟩, ⟨_, initialInterval⟩, ⟨_, maxInterval⟩,
    ⟨_, maxDuration⟩, ⟨_, retryDelay⟩, ⟨_, maxRetries⟩, ⟨_, toolTimeout⟩, ⟨_, minMatchScore⟩]

theorem mem_all (x : Setting α) : ⟨α, x⟩ ∈ all := by
  cases x <;> simp [all]

/-- What a setting is where it is given so: what that converts to, or the
default. -/
inductive Means (x : Setting α) : Option Value → α → Prop
  | byDefault : Means x none (x.get Settings.default)
  | given {v : Value} {a : α} (h : x.convert v = .ok a) : Means x (some v) a

theorem means_none {x : Setting α} {a : α} : x.Means none a ↔ x.get Settings.default = a := by
  constructor
  · rintro ⟨⟩
    rfl
  · rintro rfl
    exact .byDefault

theorem means_some {x : Setting α} {v : Value} {a : α} :
    x.Means (some v) a ↔ x.convert v = .ok a := by
  constructor
  · intro hmeans
    cases hmeans with
    | given h => exact h
  · exact .given

/-- One value is meant by what is given. -/
theorem Means.unique {x : Setting α} {o : Option Value} {a b : α} (ha : x.Means o a)
    (hb : x.Means o b) : a = b := by
  cases ha with
  | byDefault =>
    cases hb
    rfl
  | given h =>
    cases hb with
    | given h' => exact Except.ok.inj (h.symm.trans h')

instance [DecidableEq α] (x : Setting α) : (o : Option Value) → (a : α) → Decidable (x.Means o a)
  | none, _ => decidable_of_iff _ means_none.symm
  | some _, _ => decidable_of_iff _ means_some.symm

end Setting

/-! ## Conversion -/

/-- Two readings one after the other. -/
theorem bind_eq_ok {x : Except Fault α} {f : α → Except Fault β} {b : β} :
    (x >>= f) = .ok b ↔ ∃ a, x = .ok a ∧ f a = .ok b := by
  cases x with
  | error e => exact iff_of_false (by rintro ⟨⟩) (by rintro ⟨_, ⟨⟩, _⟩)
  | ok a => exact ⟨fun h => ⟨a, rfl, h⟩, fun ⟨_, ha, h⟩ => Except.ok.inj ha ▸ h⟩

theorem pure_eq_ok {a b : α} : (pure a : Except Fault α) = .ok b ↔ a = b :=
  ⟨Except.ok.inj, congrArg Except.ok⟩

/-- Tables and lists do not convert. -/
theorem Setting.isLeaf_of_convert {x : Setting α} {v : Value} {a : α} (h : x.convert v = .ok a) :
    v.IsLeaf := by
  cases v with
  | table es origin => cases x <;> cases h
  | arr items origin => cases x <;> cases h
  | _ => trivial

/-! ## Sections -/

section

variable {sec key : String}

/-- A section that is a table is read key by key. -/
theorem find_sectionOf (htable : IsTable sec values) (place : Nat) :
    (sectionOf values sec).find place key = (sec ++ "." ++ key, valueAt sec key values) := by
  simp only [sectionOf, valueAt]
  cases hsec : values.lookup sec with
  | none => rfl
  | some v =>
    obtain ⟨es, origin, rfl⟩ := htable v hsec
    rfl

theorem given_sectionOf (htable : IsTable sec values) :
    ∃ es origin, (sectionOf values sec).given = .table es origin := by
  rw [sectionOf]
  cases hsec : values.lookup sec with
  | none => exact ⟨[], none, rfl⟩
  | some v => exact htable v hsec

theorem check_sectionOf (htable : IsTable sec values) (title : String) :
    (sectionOf values sec).check title = .ok () := by
  obtain ⟨es, origin, hgiven⟩ := given_sectionOf htable
  rw [Section.check, hgiven]

end

namespace Setting

/-- A setting is this in merged values. -/
def Reads (x : Setting α) (values : Layer) (a : α) : Prop :=
  x.Means (valueAt x.sec x.key values) a

/-- The reading of a setting from its section. -/
def readIn (x : Setting α) (values : Layer) (place : Nat) : Except Fault α :=
  (sectionOf values x.sec).read place x.key x.convert (x.get Settings.default)

theorem readIn_eq_ok (x : Setting α) (htable : IsTable x.sec values) (place : Nat) {a : α} :
    x.readIn values place = .ok a ↔ x.Reads values a := by
  rw [readIn, Reads, Section.read, find_sectionOf htable]
  cases valueAt x.sec x.key values with
  | none =>
    rw [means_none]
    exact ⟨Except.ok.inj, congrArg Except.ok⟩
  | some v =>
    rw [means_some]
    dsimp only
    -- a fault is reported under the key, and stays a fault
    cases x.convert v with
    | ok b => rfl
    | error f => exact iff_of_false nofun nofun

end Setting

open Setting

theorem app_eq_ok (htable : IsTable "app" values) {app : App} :
    App.read (sectionOf values "app") = .ok app ↔ name.Reads values app.name := by
  obtain ⟨es, origin, hgiven⟩ := given_sectionOf htable
  have hread : App.read (sectionOf values "app") =
      (do return ⟨← name.readIn values 0⟩) := by
    rw [App.read, check_sectionOf htable]
    simp only [hgiven]
    rfl
  rw [hread, bind_eq_ok]
  simp only [name.readIn_eq_ok htable, pure_eq_ok]
  constructor
  · rintro ⟨a, ha, rfl⟩
    exact ha
  · intro ha
    exact ⟨_, ha, rfl⟩

theorem api_eq_ok (htable : IsTable "api" values) {api : Api} :
    Api.read (sectionOf values "api") = .ok api ↔
      baseUrl.Reads values api.baseUrl ∧
        requestTimeout.Reads values api.requestTimeoutSeconds := by
  have hread : Api.read (sectionOf values "api") =
      (do return ⟨← baseUrl.readIn values 0, ← requestTimeout.readIn values 1⟩) := by
    rw [Api.read, check_sectionOf htable]
    rfl
  rw [hread]
  simp only [bind_eq_ok, baseUrl.readIn_eq_ok htable, requestTimeout.readIn_eq_ok htable,
    pure_eq_ok]
  constructor
  · rintro ⟨_, hbase, _, htimeout, rfl⟩
    exact ⟨hbase, htimeout⟩
  · rintro ⟨hbase, htimeout⟩
    exact ⟨_, hbase, _, htimeout, rfl⟩

theorem polling_eq_ok (htable : IsTable "polling" values) {polling : Polling} :
    Polling.read (sectionOf values "polling") = .ok polling ↔
      initialInterval.Reads values polling.initialInterval ∧
        maxInterval.Reads values polling.maxInterval ∧
        maxDuration.Reads values polling.maxDuration ∧
        retryDelay.Reads values polling.retryDelay ∧
        maxRetries.Reads values polling.maxRetries := by
  have hread : Polling.read (sectionOf values "polling") =
      (do return ⟨← initialInterval.readIn values 0, ← maxInterval.readIn values 1,
        ← maxDuration.readIn values 2, ← retryDelay.readIn values 3,
        ← maxRetries.readIn values 4⟩) := by
    rw [Polling.read, check_sectionOf htable]
    rfl
  rw [hread]
  simp only [bind_eq_ok, initialInterval.readIn_eq_ok htable, maxInterval.readIn_eq_ok htable,
    maxDuration.readIn_eq_ok htable, retryDelay.readIn_eq_ok htable,
    maxRetries.readIn_eq_ok htable, pure_eq_ok]
  constructor
  · rintro ⟨_, hinitial, _, hmax, _, hduration, _, hdelay, _, hretries, rfl⟩
    exact ⟨hinitial, hmax, hduration, hdelay, hretries⟩
  · rintro ⟨hinitial, hmax, hduration, hdelay, hretries⟩
    exact ⟨_, hinitial, _, hmax, _, hduration, _, hdelay, _, hretries, rfl⟩

theorem tools_eq_ok (htable : IsTable "tools" values) {tools : Tools} :
    Tools.read (sectionOf values "tools") = .ok tools ↔
      toolTimeout.Reads values tools.timeoutSeconds ∧
        minMatchScore.Reads values tools.minMatchScore := by
  have hread : Tools.read (sectionOf values "tools") =
      (do return ⟨← toolTimeout.readIn values 0, ← minMatchScore.readIn values 1⟩) := by
    rw [Tools.read, check_sectionOf htable]
    rfl
  rw [hread]
  simp only [bind_eq_ok, toolTimeout.readIn_eq_ok htable, minMatchScore.readIn_eq_ok htable,
    pure_eq_ok]
  constructor
  · rintro ⟨_, htimeout, _, hscore, rfl⟩
    exact ⟨htimeout, hscore⟩
  · rintro ⟨htimeout, hscore⟩
    exact ⟨_, htimeout, _, hscore, rfl⟩

/-! ## All settings -/

/-- Settings are read section by section. -/
theorem ofValues_eq_ok :
    ofValues values = .ok settings ↔
      App.read (sectionOf values "app") = .ok settings.app ∧
        Api.read (sectionOf values "api") = .ok settings.api ∧
        Polling.read (sectionOf values "polling") = .ok settings.polling ∧
        Tools.read (sectionOf values "tools") = .ok settings.tools := by
  simp only [ofValues, bind_eq_ok, pure_eq_ok]
  constructor
  · rintro ⟨_, happ, _, hapi, _, hpolling, _, htools, rfl⟩
    exact ⟨happ, hapi, hpolling, htools⟩
  · rintro ⟨happ, hapi, hpolling, htools⟩
    exact ⟨_, happ, _, hapi, _, hpolling, _, htools, rfl⟩

/-- **Each setting is read by itself**, if its section is a table: from the
value under its key, whatever else is there. -/
theorem ofValues_reads (h : ofValues values = .ok settings) (x : Setting α)
    (htable : IsTable x.sec values) : x.Reads values (x.get settings) := by
  obtain ⟨happ, hapi, hpolling, htools⟩ := ofValues_eq_ok.1 h
  cases x with
  | name => exact (app_eq_ok htable).1 happ
  | baseUrl => exact ((api_eq_ok htable).1 hapi).1
  | requestTimeout => exact ((api_eq_ok htable).1 hapi).2
  | initialInterval => exact ((polling_eq_ok htable).1 hpolling).1
  | maxInterval => exact ((polling_eq_ok htable).1 hpolling).2.1
  | maxDuration => exact ((polling_eq_ok htable).1 hpolling).2.2.1
  | retryDelay => exact ((polling_eq_ok htable).1 hpolling).2.2.2.1
  | maxRetries => exact ((polling_eq_ok htable).1 hpolling).2.2.2.2
  | toolTimeout => exact ((tools_eq_ok htable).1 htools).1
  | minMatchScore => exact ((tools_eq_ok htable).1 htools).2

/-- Settings are read if each of them is something. -/
theorem exists_ofValues (htable : ∀ {α : Type} (x : Setting α), IsTable x.sec values)
    (h : ∀ {α : Type} (x : Setting α), ∃ a, x.Reads values a) :
    ∃ settings, ofValues values = .ok settings := by
  obtain ⟨appName, hname⟩ := h name
  obtain ⟨url, hurl⟩ := h baseUrl
  obtain ⟨request, hrequest⟩ := h requestTimeout
  obtain ⟨initial, hinitial⟩ := h initialInterval
  obtain ⟨interval, hinterval⟩ := h maxInterval
  obtain ⟨duration, hduration⟩ := h maxDuration
  obtain ⟨delay, hdelay⟩ := h retryDelay
  obtain ⟨retries, hretries⟩ := h maxRetries
  obtain ⟨timeout, htimeout⟩ := h toolTimeout
  obtain ⟨score, hscore⟩ := h minMatchScore
  refine ⟨⟨⟨appName⟩, ⟨url, request⟩, ⟨initial, interval, duration, delay, retries⟩,
    ⟨timeout, score⟩⟩, ofValues_eq_ok.2 ⟨?_, ?_, ?_, ?_⟩⟩
  · exact (app_eq_ok (htable name)).2 hname
  · exact (api_eq_ok (htable baseUrl)).2 ⟨hurl, hrequest⟩
  · exact (polling_eq_ok (htable maxRetries)).2
      ⟨hinitial, hinterval, hduration, hdelay, hretries⟩
  · exact (tools_eq_ok (htable toolTimeout)).2 ⟨htimeout, hscore⟩

end Settings

end Amanuensis
