import Amanuensis.Proofs.Invocation.Lifecycle
import Amanuensis.Proofs.Research.Outcome
import Amanuensis.Proofs.Research.Progress
import Amanuensis.Proofs.Research.Telling
import Amanuensis.Proofs.Toolbox.Calls
import Amanuensis.Proofs.Toolbox.Verdicts
/-!
# The progress of research

What the progress hook is told in a call of the research tool. The handler is
a study, which is an order and a poll, and every event that the poll reports
before the call is over is told to the hook once, in the words of
`progressOf` (`call_effects`). With what a poll reports (`Poll.poll_reports`)
this says what a caller hears of every answer of the service
(`progress_told`), as far as the clock and the counts go
(`progress_beyond_counts`).
-/


namespace Amanuensis

namespace Toolbox

open Amanuensis.Task Research Invocation

variable {options : Poll.Options} {i : Invoker Machine} {client : Client} {moves : Nat}
variable {params : Json} {c : Context} {m : Moment} {t : Tool} {inquiry : Inquiry}

/-! ## Words -/

/-- What an event is told as. -/
structure Wording (event : Poll.Event) (p : Tool.Progress) : Prop where
  /-- The status and the number of the poll, and the step if there is one. -/
  message : p.message = event.status.text ++ " (poll " ++ toString event.count ++ ")" ++
    ((event.progress.bind Progress.step).elim "" (": " ++ ·))
  percentage : p.percentage = event.progress.bind Progress.percentage

theorem progressOf_wording (event : Poll.Event) : Wording event (progressOf event) := by
  obtain ⟨status, count, elapsed, progress⟩ := event
  cases progress with
  | none => exact ⟨String.append_empty.symm, rfl⟩
  | some p =>
    obtain ⟨step, percentage⟩ := p
    cases step with
    | none => exact ⟨String.append_empty.symm, rfl⟩
    | some step => exact ⟨String.append_assoc, rfl⟩

/-! ## Calls -/

/-- Whoever listens to the call listens to the poll in it. -/
def pollSetting (client : Client) (c : Context) : Setting Poll.Event :=
  (settingOf client c).inside progressOf

/-- The run of the handler of research is that of the study. -/
theorem runOf_research (hhandlers : i.handlers = handlers options)
    (haccepted : Accepted i research.name params c m t)
    (hread : Tool.readParams research.name Inquiry.decode params = .ok inquiry) :
    i.runOf client moves t params c m =
      ((study (planOf options inquiry)).run (pollSetting client c)
        (.against (i.deadlineOf c (startOf c m))) moves (startOf c m)).map progressOf
          findingVerdict := by
  rw [Invoker.runOf, hhandlers, haccepted.name_eq]
  exact research_run hread moves

/-- **What a call of research does** is nothing, or its order, or its order
and what the poll does that comes of it, whose events are told in other
words. -/
theorem call_effects (hhandlers : i.handlers = handlers options)
    (haccepted : Accepted i research.name params c m t)
    (hread : Tool.readParams research.name Inquiry.decode params = .ok inquiry)
    (client : Client) (moves : Nat) :
    let e := pollSetting client c
    let plan := planOf options inquiry
    let call := i.invoke client moves research.name params c m
    effectsOf call.trace = [] ∨
    effectsOf call.trace = [.asked (.create plan.order) (startOf c m).now] ∨
    ∃ u jobId status left,
      Study.answerOf e plan (startOf c m) = some (u, .ok (.queued jobId status)) ∧
      let run := (poll options jobId u).run e (.against (i.deadlineOf c (startOf c m))) left
        ((e.sent (startOf c m) (.create plan.order)).goto u)
      effectsOf call.trace =
        .asked (.create plan.order) (startOf c m).now :: run.effects.map (.map progressOf) ∧
      (call.answer.isSome → run.outcome ≠ .unfinished) := by
  intro e plan call
  have heffects : effectsOf call.trace = _ := haccepted.effectsOf_eq client moves
  have hanswer : call.answer = _ := (invoke_accepted haccepted client moves).1
  cases hlost : (Race.against (i.deadlineOf c (startOf c m))).lost (startOf c m) c.signalled
      (some (startOf c m).now) with
  | some w =>
    rw [courseOf_of_lost hlost] at heffects
    exact .inl heffects
  | none =>
    rw [courseOf_of_open hlost, runOf_research hhandlers haccepted hread] at heffects hanswer
    have htold : effectsOf call.trace = ((study plan).run e
        (.against (i.deadlineOf c (startOf c m))) moves (startOf c m)).effects.map
          (.map progressOf) := heffects.trans (effectsOf_effects _)
    obtain hnothing | horder | ⟨u, jobId, status, left, hqueued, hstudy⟩ :=
      Study.study_effects e plan (.against (i.deadlineOf c (startOf c m))) moves (startOf c m)
    · rw [htold, hnothing]
      exact .inl rfl
    · rw [htold, horder]
      exact .inr (.inl rfl)
    · refine .inr (.inr ⟨u, jobId, status, left, hqueued, ?_, fun hsome hunfinished => ?_⟩)
      · rw [htold, hstudy]
        rfl
      · -- a poll that is not over leaves the call without an answer
        have houtcome : ((study plan).run e (.against (i.deadlineOf c (startOf c m))) moves
            (startOf c m)).outcome = .unfinished := by
          rw [hstudy]
          exact hunfinished
        rw [hanswer, Record.map, houtcome] at hsome
        cases hsome

/-- **What a caller hears of research.** A poll to which somebody listens
reports the events of its slots, whoever cancels its signal and whatever it is
raced against. In a call of research that has a progress hook somebody does,
and what the hook is told is nothing before a job is polled, and then the events
that the poll reports until the call is over, each once and in their order, in
words that tell its status, its number, its step and its percentage. -/
theorem progress_told :
    (∀ (e : Setting Poll.Event) (o : Poll.Options) (jobId : String) (race : Race) (moves : Nat)
      (m : Moment), e.listener.isSome →
      Poll.Reporting o m.now
        (Poll.statesOf (received (Poll.step o) e race moves m (Poll.start o jobId m.now)))
        ((poll o jobId m.now).run e race moves m)) ∧
    ∀ (options : Poll.Options) (i : Invoker Machine) (client : Client) (moves : Nat)
      (params : Json) (c : Context) (m : Moment) (t : Tool) (inquiry : Inquiry),
      i.handlers = handlers options → Accepted i research.name params c m t →
      Tool.readParams research.name Inquiry.decode params = .ok inquiry → c.onProgress.isSome →
      let e := pollSetting client c
      let plan := planOf options inquiry
      let call := i.invoke client moves research.name params c m
      let progress := reportsOf (effectsOf call.trace)
      e.listener.isSome ∧
      ((progress = [] ∧ ∀ jobId u, .asked (.status jobId) u ∉ effectsOf call.trace) ∨
        ∃ u jobId status left,
          Study.answerOf e plan (startOf c m) = some (u, .ok (.queued jobId status)) ∧
          let run := (poll options jobId u).run e (.against (i.deadlineOf c (startOf c m))) left
            ((e.sent (startOf c m) (.create plan.order)).goto u)
          requestsOf (effectsOf call.trace) =
            (.create plan.order, (startOf c m).now) :: requestsOf run.effects ∧
          progress = (reportsOf run.effects).map (fun x => (progressOf x.1, x.2)) ∧
          (call.answer.isSome → run.outcome ≠ .unfinished)) ∧
      ∀ event, Wording event (progressOf event) := by
  refine ⟨fun e o jobId race moves m hlistens => Poll.poll_reports hlistens o jobId race moves m,
    ?_⟩
  intro options i client moves params c m t inquiry hhandlers haccepted hread hprogress e plan call
    progress
  have hlistens : e.listener.isSome := by
    change (c.onProgress.map _).isSome
    rwa [Option.isSome_map]
  refine ⟨hlistens, ?_, progressOf_wording⟩
  obtain hnothing | horder | ⟨u, jobId, status, left, hqueued, heffects, hover⟩ :=
    call_effects hhandlers haccepted hread client moves
  · refine .inl ⟨congrArg reportsOf hnothing, fun jobId u hasked => ?_⟩
    rw [hnothing] at hasked
    cases hasked
  · refine .inl ⟨congrArg reportsOf horder, fun jobId u hasked => ?_⟩
    rw [horder] at hasked
    cases List.mem_singleton.1 hasked
  · refine .inr ⟨u, jobId, status, left, hqueued, ?_, ?_, hover⟩
    · rw [heffects]
      exact congrArg (_ :: ·) (requestsOf_map progressOf _)
    · exact (congrArg reportsOf heffects).trans (reportsOf_map progressOf _)

/-- A service that is reading when it is asked for the first time, and done
when it is asked again. -/
def readingRoom : Client :=
  .ofSequences (fun _ => .now (.ok (.queued "job-1" none)))
    (Client.sequence [.now (.ok ⟨.processing, none, none, some ⟨some "reading", none⟩⟩)]
      (.now (.ok ⟨.completed, some ⟨"done", [], []⟩, none, none⟩)))
    fun _ => .now (.error .cancelled)

/-- The hook is told of both answers when they come, which is all that the poll
of the job reports. -/
theorem readingRoom_progress :
    let c := attentive false none
    let call := builtIn.invoke readingRoom 20 research.name (.obj [("query", .str "ink")]) c
      (.start none)
    let told := [(⟨"processing (poll 1): reading", none⟩, 5000000000),
      (⟨"completed (poll 2)", none⟩, 15000000000)]
    reportsOf (effectsOf call.trace) = told ∧
    ∃ jobId m left,
      let run := (poll .standard jobId m.now).run (pollSetting readingRoom c) (.against none) left m
      told = (reportsOf run.effects).map (fun x => (progressOf x.1, x.2)) ∧
      Poll.Reporting .standard m.now (Poll.statesOf (received (Poll.step .standard)
        (pollSetting readingRoom c) (.against none) left m (Poll.start .standard jobId m.now)))
        run := by
  intro c call told
  have htold : reportsOf (effectsOf call.trace) = told := by decide +kernel
  have haccepted : Accepted builtIn research.name (.obj [("query", .str "ink")]) c (.start none)
      research := ⟨rfl, rfl, rfl⟩
  obtain ⟨hlistens, hrelayed, -⟩ := progress_told.2 .standard builtIn readingRoom 20
    (.obj [("query", .str "ink")]) c (.start none) research ⟨"ink", none⟩ rfl haccepted rfl rfl
  refine ⟨htold, ?_⟩
  obtain ⟨hnone, -⟩ | ⟨u, jobId, status, left, -, -, hreports, -⟩ := hrelayed
  · exact absurd (htold.symm.trans hnone) (List.cons_ne_nil _ _)
  · exact ⟨jobId, _, left, htold.symm.trans hreports,
      progress_told.1 _ _ jobId _ left _ hlistens⟩

open Poll in
/-- **Not every event is told as it is.** An answer beyond the reach of the clock
is told after thirty years. A poll whose retries are as many as can be counted
tells nothing of a service that cannot be reached, however many requests have
failed. And the 4294967296th event is told as that of no slot at all. -/
theorem progress_beyond_counts :
    (distant.Calm (.start none) ∧
      (scenario distant enduring "job-1" (.start none)).Asks 0 0 0 1000000 ∧
      (scenario distant enduring "job-1" (.start none)).script 0 = some (18446744073709551615000000,
        .ok ⟨.completed, some ⟨"done", [], []⟩, none, none⟩) ∧
      Hears distant enduring "job-1" (.start none) 0
        ⟨.completed, 1, .ofNanos (1000000 + thirtyYears), none⟩ (1000000 + thirtyYears) ∧
      1000000 + thirtyYears ≠ 1000000 + 18446744073709551615000000) ∧
    (unreached.listener.isSome ∧ tireless.maxRetries.toNat + 1 = 4294967296 ∧
      (∀ f, ∃ t, (scenario unreached tireless "job-1" (.start none)).Answered 0 f f t
        (.error (.network "unreachable"))) ∧
      ∀ k event t, ¬ Hears unreached tireless "job-1" (.start none) k event t) ∧
    Hears (promptly (doneAfter 4294967295)) (waitless 0) "job-1" (.start none) 4294967295
      ⟨.completed, 0, .ofNanos 0, none⟩ 0 := by
  have hdistant : distant.Calm (.start none) := nofun
  have hunreached : unreached.Calm (.start none) := promptly_calm _
  have hprompt := promptly_calm (doneAfter 4294967295)
  refine ⟨⟨hdistant, distant_asks, rfl, ?_, by decide +kernel⟩,
    ⟨rfl, by decide, unreached_answered, fun k event t hhears => ?_⟩, ?_⟩
  · exact (hears_iff hdistant).2 ⟨rfl, .told distant_answered⟩
  · obtain ⟨-, htells⟩ := (hears_iff hunreached).1 hhears
    exact Scenario.not_tells_of_unlimited (by decide) unreached_fails htells
  · exact (hears_iff hprompt).2 ⟨rfl, .told (doneAfter_answered 0 "job-1" 4294967295)⟩

end Toolbox

end Amanuensis
