import Amanuensis.Proofs.Invocation.Loan
import Amanuensis.Tool.Routine
/-!
# The lifecycle of a call

Which hooks are told in the course of a call, and in which order. A call
that is refused tells the last hook only. Any other tells the start hook,
the progress hook as often as the handler reports, and then the last hook of
the very answer that the call returns; what was lent to the handler is
withdrawn by then and the audit record is written (`invoke_lifecycle`). The handlers are not known
here: what they do may fail, break down, be cut off or never end.
-/


namespace Amanuensis

namespace Invocation

open Tool (Output Progress)

variable {σ : Type}

/-! ## What a trace tells -/

/-- The hooks that are told of something. -/
def hooks (trace : List Happening) : List Happening :=
  trace.filter fun
    | .started | .progressed _ _ | .completed _ | .failed _ => true
    | .entered _ _ | .asked _ _ | .audited _ => false

/-- The audit records that are written. -/
def audits (trace : List Happening) : List Audit :=
  trace.filterMap fun
    | .audited a => some a
    | _ => none

/-- The handlers that are entered, with their parameters. -/
def entries (trace : List Happening) : List (String × Json) :=
  trace.filterMap fun
    | .entered tool params => some (tool, params)
    | _ => none

/-- What the handler asks and reports. -/
def effectsOf (trace : List Happening) : List (Task.Effect Progress) :=
  trace.filterMap fun
    | .asked q t => some (.asked q t)
    | .progressed p t => some (.reported p t)
    | _ => none

/-- The progress hook is told of a report. -/
def progressed (p : Progress × Instant) : Happening := .progressed p.1 p.2

theorem hooks_append (xs ys : List Happening) : hooks (xs ++ ys) = hooks xs ++ hooks ys :=
  List.filter_append _ _

theorem audits_append (xs ys : List Happening) : audits (xs ++ ys) = audits xs ++ audits ys :=
  List.filterMap_append

section Views

variable {β : Type} {c : Context} {name : String} {params : Json} (f : Happening → Option β)

theorem hooks_started (hook : Option Bool) : hooks (told hook .started) = told hook .started := by
  cases hook <;> rfl

theorem hooks_lastTold (answer : Except Failure Output) :
    hooks (lastTold c answer) = lastTold c answer := by
  cases answer with
  | ok o => rw [lastTold]; cases c.onComplete <;> rfl
  | error f => rw [lastTold]; cases c.onError <;> rfl

/-- Of a call that is closed the last hook is told, if it has an answer. -/
theorem hooks_closing (answer : Option (Except Failure Output)) :
    hooks (closing name params c answer) = answer.elim [] (lastTold c) := by
  cases answer with
  | none => rfl
  | some answer => exact hooks_lastTold answer

/-- The hooks are told of the reports among the effects of a handler. -/
theorem hooks_effects (effects : List (Task.Effect Progress)) :
    hooks (effects.map happeningOf) = (Task.reportsOf effects).map progressed := by
  induction effects with
  | nil => rfl
  | cons effect effects ih =>
    cases effect with
    | asked q t => exact ih
    | reported p t => exact congrArg (progressed (p, t) :: ·) ih

theorem effectsOf_effects (effects : List (Task.Effect Progress)) :
    effectsOf (effects.map happeningOf) = effects := by
  induction effects with
  | nil => rfl
  | cons effect effects ih => cases effect <;> exact congrArg _ ih

/-- Who does not look at a hook sees nothing of its being told, -/
theorem filterMap_told {α : Type} (hook : Option α) {h : Happening} (hh : f h = none) :
    (told hook h).filterMap f = [] := by
  unfold told
  split
  · exact List.filterMap_cons_none hh
  · rfl

/-- who looks neither at the audit nor at the last hook sees nothing of the
end of a call, -/
theorem filterMap_closing (haudited : ∀ a, f (.audited a) = none)
    (hcompleted : ∀ o, f (.completed o) = none) (hfailed : ∀ e, f (.failed e) = none)
    (answer : Option (Except Failure Output)) :
    (closing name params c answer).filterMap f = [] := by
  cases answer with
  | none => rfl
  | some answer =>
    rw [closing, List.filterMap_cons_none (haudited _)]
    cases answer with
    | ok o => exact filterMap_told f _ (hcompleted o)
    | error e => exact filterMap_told f _ (hfailed e)

/-- and who does not look at the effects of a handler sees nothing of them. -/
theorem filterMap_effects (heffect : ∀ x, f (happeningOf x) = none)
    (effects : List (Task.Effect Progress)) : (effects.map happeningOf).filterMap f = [] := by
  refine List.filterMap_eq_nil_iff.2 fun h hh => ?_
  obtain ⟨effect, -, rfl⟩ := List.mem_map.1 hh
  exact heffect effect

variable {σ : Type} {i : Invoker σ} {m : Task.Moment} {t : Tool}

/-- All else that is seen of a call that is accepted is seen of its handler's
part. -/
theorem Accepted.filterMap_trace (h : Accepted i name params c m t) (client : Client) (moves : Nat)
    (hstarted : f .started = none) (haudited : ∀ a, f (.audited a) = none)
    (hcompleted : ∀ o, f (.completed o) = none) (hfailed : ∀ e, f (.failed e) = none) :
    (i.invoke client moves name params c m).trace.filterMap f =
      (i.courseOf client moves t params c m).trace.filterMap f := by
  rw [(invoke_accepted h client moves).2.1, List.filterMap_append, List.filterMap_append,
    filterMap_told f _ hstarted, filterMap_closing f haudited hcompleted hfailed, List.nil_append,
    List.append_nil]

theorem Accepted.entries_eq (h : Accepted i name params c m t) (client : Client) (moves : Nat) :
    entries (i.invoke client moves name params c m).trace =
      entries (i.courseOf client moves t params c m).trace :=
  h.filterMap_trace _ client moves rfl (fun _ => rfl) (fun _ => rfl) fun _ => rfl

theorem Accepted.effectsOf_eq (h : Accepted i name params c m t) (client : Client) (moves : Nat) :
    effectsOf (i.invoke client moves name params c m).trace =
      effectsOf (i.courseOf client moves t params c m).trace :=
  h.filterMap_trace _ client moves rfl (fun _ => rfl) (fun _ => rfl) fun _ => rfl

end Views

/-! ## The handler's part -/

/-- A run that nobody listens to reports to nobody. -/
theorem reportsOf_runFrom {ε ρ : Type} {step : Instant → Bool → σ → Task.Move σ ε ρ}
    {e : Task.Setting ε} {race : Task.Race} {moves : Nat} {m : Task.Moment} {s : σ}
    (h : e.listener = none) : Task.reportsOf (Task.runFrom step e race moves m s).effects = [] := by
  refine List.filterMap_eq_nil_iff.2 fun effect heffect => ?_
  cases effect with
  | asked q t => rfl
  | reported event t =>
    obtain ⟨before, after, heffects⟩ := List.append_of_mem heffect
    obtain ⟨n, m', s', turn, -, hturn, hone⟩ := Task.exists_turn_of_runFrom heffects
    obtain ⟨-, next, hmove, -⟩ := Task.turn_of_reported hturn hone
    rw [Task.Setting.turnAt, hmove, Task.turn_report] at hturn
    cases hturn
    simp [Task.Setting.heard, h] at hone

/-- The handler's part of a call: the handler is entered at most once, only
the progress hook is told, and nothing is written. -/
theorem courseOf_trace (i : Invoker σ) (client : Client) (moves : Nat) (t : Tool) (params : Json)
    (c : Context) (m : Task.Moment) : ∃ progress : List (Progress × Instant),
    (c.onProgress = none → progress = []) ∧
    hooks (i.courseOf client moves t params c m).trace = progress.map progressed ∧
    audits (i.courseOf client moves t params c m).trace = [] ∧
    (entries (i.courseOf client moves t params c m).trace = [] ∨
      entries (i.courseOf client moves t params c m).trace = [(t.name, params)]) := by
  cases hlost : (Task.Race.against (i.deadlineOf c (startOf c m))).lost (startOf c m) c.signalled
      (some (startOf c m).now) with
  | some w =>
    rw [courseOf_of_lost hlost]
    exact ⟨[], fun _ => rfl, rfl, rfl, .inl rfl⟩
  | none =>
    rw [courseOf_of_open hlost]
    refine ⟨Task.reportsOf (i.runOf client moves t params c m).effects, ?_, ?_, ?_, .inr ?_⟩
    · exact fun h => reportsOf_runFrom h
    · exact hooks_effects _
    · exact filterMap_effects _ (by rintro (_ | _) <;> rfl) _
    · exact congrArg ((t.name, params) :: ·) (filterMap_effects _ (by rintro (_ | _) <;> rfl) _)

/-! ## Whole calls -/

/-- What the lifecycle of a call is, from how it was called and what it came
to. -/
structure Lifecycle (i : Invoker σ) (name : String) (params : Json) (c : Context)
    (m : Task.Moment) (r : Report) : Prop where
  /-- A call that is refused returns that failure, and only the last hook is
  told of it. -/
  refused : ∀ f, Refused i name params c m f → r.answer = some (.error f) ∧
    hooks r.trace = told c.onError (.failed f) ∧ entries r.trace = []
  /-- Of all the hooks the last one alone is told if and only if the call is
  refused. -/
  refused_iff : c.onStart.isSome → c.onError.isSome →
    ((∃ f, hooks r.trace = [.failed f]) ↔ ∃ f, Refused i name params c m f)
  /-- Any other call tells the start hook, then the progress hook any number
  of times, and then the last hook of what it returns, if it ever does. -/
  order : (∀ f, ¬ Refused i name params c m f) → ∃ progress : List (Progress × Instant),
    (c.onProgress = none → progress = []) ∧
    hooks r.trace = told c.onStart .started ++ progress.map progressed ++
      r.answer.elim [] (lastTold c)
  /-- The handler is entered once at most. -/
  entered : entries r.trace = [] ∨ entries r.trace = [(name, params)]
  /-- No record is written unless the call returns. -/
  unaudited : r.answer = none → audits r.trace = []
  /-- Exactly one is if it does: it says how the call came out, and after it
  only the last hook is told. -/
  audited : ∀ answer, r.answer = some answer → ∃ earlier a,
    r.trace = earlier ++ .audited a :: lastTold c answer ∧ audits earlier = [] ∧ a.tool = name ∧
    (∀ o, answer = .ok o → a.ok = true ∧ a.outcome = "OK") ∧
    ∀ f, answer = .error f → a.ok = false ∧ a.outcome = f.code
  /-- What is reported after the call has returned reaches nobody. -/
  closed : ∀ answer, r.answer = some answer → ∀ reporter, r.reporter = some reporter →
    ∀ p, reporter.report p = none
  /-- Nothing comes of whatever is done by then, at whatever time and by
  whomever, with copies of what was lent to the handler: nobody is told. -/
  withdrawn : ∀ answer, r.answer = some answer → ∀ loan, r.loan = some loan →
    ∀ m' acts, loan.acts m' acts = ⟨[], loan, m'⟩

variable {i : Invoker σ} {name : String} {params : Json} {c : Context} {m : Task.Moment}
variable {client : Client} {moves : Nat} {t : Tool} {f : Failure}

/-- The record that is written says how the call came out. -/
theorem audit_of (answer : Except Failure Output) :
    (Audit.of name params answer).tool = name ∧
      (∀ o, answer = .ok o → (Audit.of name params answer).ok = true ∧
        (Audit.of name params answer).outcome = "OK") ∧
      ∀ f, answer = .error f → (Audit.of name params answer).ok = false ∧
        (Audit.of name params answer).outcome = f.code := by
  cases answer with
  | ok o => exact ⟨rfl, fun _ _ => ⟨rfl, rfl⟩, nofun⟩
  | error f =>
    refine ⟨rfl, nofun, ?_⟩
    rintro f' ⟨⟩
    exact ⟨rfl, rfl⟩

/-- What the end of a call leaves to be read: there is a record if and only
if there is an answer. -/
theorem audited_of_trace {answer : Option (Except Failure Output)} {trace earlier : List Happening}
    (htrace : trace = earlier ++ closing name params c answer) (hearlier : audits earlier = []) :
    (answer = none → audits trace = []) ∧
    ∀ settled, answer = some settled → ∃ earlier a,
      trace = earlier ++ .audited a :: lastTold c settled ∧ audits earlier = [] ∧ a.tool = name ∧
      (∀ o, settled = .ok o → a.ok = true ∧ a.outcome = "OK") ∧
      ∀ f, settled = .error f → a.ok = false ∧ a.outcome = f.code := by
  subst htrace
  constructor
  · rintro rfl
    rw [audits_append, hearlier]
    rfl
  · rintro settled rfl
    exact ⟨earlier, _, rfl, hearlier, audit_of settled⟩

/-- A hook that is told at the start is not the last one. -/
theorem started_ne {rest : List Happening} (h : c.onStart.isSome) :
    told c.onStart .started ++ rest ≠ [.failed f] := by
  simp [told, h]

theorem lifecycle_of_refused (h : Refused i name params c m f) :
    Lifecycle i name params c m (i.invoke client moves name params c m) := by
  obtain ⟨hanswer, htrace, hreporter⟩ := invoke_refused h client moves
  have hhooks : hooks (i.invoke client moves name params c m).trace =
      told c.onError (.failed f) := by
    rw [htrace, hooks_closing]
    rfl
  have hentries : entries (i.invoke client moves name params c m).trace = [] := by
    rw [htrace]
    exact filterMap_closing _ (fun _ => rfl) (fun _ => rfl) (fun _ => rfl) _
  rw [← hanswer] at htrace
  obtain ⟨hunaudited, haudited⟩ :=
    audited_of_trace (show _ = [] ++ closing name params c _ from htrace) rfl
  refine ⟨?_, ?_, fun haccepted => absurd h (haccepted f), .inl hentries, hunaudited, haudited, ?_,
    fun _ hsettled _ hloan => (withdrawn_of_answer hsettled hloan).acts_eq⟩
  · -- whatever else it is refused for is the same failure, since both are returned
    intro f' hrefused
    have hanswer' := (invoke_refused hrefused client moves).1
    cases hanswer.symm.trans hanswer'
    exact ⟨hanswer, hhooks, hentries⟩
  · refine fun _ herror => ⟨fun _ => ⟨f, h⟩, fun _ => ⟨f, ?_⟩⟩
    rw [hhooks, told, if_pos herror]
  · intro answer _ reporter hreporter'
    cases hreporter.symm.trans hreporter'

theorem lifecycle_of_accepted (h : Accepted i name params c m t) :
    Lifecycle i name params c m (i.invoke client moves name params c m) := by
  obtain ⟨hanswer, htrace, hreporter⟩ := invoke_accepted h client moves
  obtain ⟨progress, hprogress, hhooks, haudits, hentries⟩ :=
    courseOf_trace i client moves t params c m
  rw [← hanswer] at htrace hreporter
  have horder : hooks (i.invoke client moves name params c m).trace =
      told c.onStart .started ++ progress.map progressed ++
        (i.invoke client moves name params c m).answer.elim [] (lastTold c) := by
    rw [htrace, hooks_append, hooks_append, hooks_started, hhooks, hooks_closing]
  obtain ⟨hunaudited, haudited⟩ := audited_of_trace htrace
    (by rw [audits_append, haudits, List.append_nil]; exact filterMap_told _ _ rfl)
  refine ⟨fun f hrefused => absurd hrefused h.not_refused, ?_,
    fun _ => ⟨progress, hprogress, horder⟩, ?_, hunaudited, haudited, ?_,
    fun _ hsettled _ hloan => (withdrawn_of_answer hsettled hloan).acts_eq⟩
  · refine fun hstart _ => ⟨?_, fun ⟨f, hrefused⟩ => absurd hrefused h.not_refused⟩
    rintro ⟨f, hfailed⟩
    rw [horder, List.append_assoc] at hfailed
    exact absurd hfailed (started_ne hstart)
  · rw [h.entries_eq]
    rwa [h.name_eq] at hentries
  · intro answer hsettled reporter hreporter' p
    rw [hsettled] at hreporter
    cases hreporter.symm.trans hreporter'
    rfl

/-- **The lifecycle of a call**, whatever its tool, handler, parameters and
context are and however long the handler takes. A free text that calls for
no tool is told to the last hook as a failure, and nothing else happens. -/
theorem invoke_lifecycle (i : Invoker σ) (client : Client) (moves : Nat) (name : String)
    (params : Json) (c : Context) (m : Task.Moment) :
    Lifecycle i name params c m (i.invoke client moves name params c m) ∧
    ∀ input, i.router.resolve input = none →
      (i.dispatch client moves input c m).2.answer = some (.error .noToolMatches) ∧
      (i.dispatch client moves input c m).2.trace = told c.onError (.failed .noToolMatches) ∧
      Failure.noToolMatches.code = "TOOL_NOT_FOUND" := by
  constructor
  · obtain ⟨f, hrefused⟩ | ⟨t, haccepted⟩ := refused_or_accepted i name params c m
    · exact lifecycle_of_refused hrefused
    · exact lifecycle_of_accepted haccepted
  · intro input hresolve
    exact ⟨by simp [Invoker.dispatch, hresolve], by simp [Invoker.dispatch, hresolve], rfl⟩

/-! ## A tool to try it on -/

/-- A tool that greets. -/
def greeter : Tool := .plain "greet" "Says hello" .text

/-- It reports that it thinks, waits for a second and says hello. -/
def greeting : List Tool.Routine.Step :=
  [.report ⟨"thinking", none⟩, .sleep 1000000000, .settle (.output (.text "hello"))]

/-- Nobody but the greeter may be called, with some usual timeout. -/
def reception (usual : Option Duration) : Invoker Tool.Routine :=
  ⟨.standard ⟨[greeter], by decide, by decide⟩, .ofRoutines [("greet", greeting)], usual⟩

/-- A service that answers nothing. -/
def silence : Client := ⟨fun _ _ => ⟨false, none, false, none⟩⟩

/-- A caller with every hook, none of which cancels anything. -/
def attentive (signalled : Bool) (timeout : Option Duration) : Context :=
  ⟨signalled, timeout, some false, some fun _ _ => false, some false, some false⟩

/-- The greeter's call is accepted and told in full, any other is refused,
and no text calls for it. -/
theorem reception_lifecycle :
    let call := fun name =>
      (reception none).invoke silence 5 name (.obj []) (attentive false none) (.start none)
    (∃ progress : List (Progress × Instant), hooks (call "greet").trace =
      [.started] ++ progress.map progressed ++ [.completed (.text "hello")]) ∧
    hooks (call "greets").trace = [.failed (.toolNotFound "greets")] ∧
    ((reception none).dispatch silence 5 "say hello" (attentive false none)
      (.start none)).2.answer = some (.error .noToolMatches) := by
  obtain ⟨hgreet, hdispatch⟩ := invoke_lifecycle (reception none) silence 5 "greet" (.obj [])
    (attentive false none) (.start none)
  obtain ⟨hgreets, -⟩ := invoke_lifecycle (reception none) silence 5 "greets" (.obj [])
    (attentive false none) (.start none)
  have haccepted : Accepted (reception none) "greet" (.obj []) (attentive false none)
      (.start none) greeter := ⟨rfl, rfl, rfl⟩
  have hunrouted : (reception none).router.resolve "say hello" = none := by
    have hroutes :
        (reception none).registry.tools.filterMap (Match.route? · "say hello") = [] := rfl
    rw [Match.Router.resolve, Match.Router.rank, ← Invoker.registry, hroutes]
    simp
  refine ⟨?_, (hgreets.refused _ (.unknown rfl)).2.1, (hdispatch "say hello" hunrouted).1⟩
  obtain ⟨progress, -, horder⟩ := hgreet.order fun f => haccepted.not_refused
  exact ⟨progress, horder⟩

end Invocation

end Amanuensis
