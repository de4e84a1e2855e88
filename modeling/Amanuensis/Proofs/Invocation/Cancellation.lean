import Amanuensis.Proofs.Invocation.FirstToSettle
import Amanuensis.Proofs.Task.Honesty
import Amanuensis.Proofs.Task.Lockstep
/-!
# Calls that are cancelled

What a call answers whose signal is cancelled, from outside or by one of its
own hooks. It is compared with the same call if nobody cancels the signal
(`Invoker.undisturbed`). The handlers are not known here but for being
`Yielding`: then a call answers what it would have answered, at the same
instant, unless it gives up for a signal that is cancelled by then
(`Accepted.answer_lockstep`). So a call whose signal is cancelled earlier than
it would have answered gives up (`Accepted.gives_up`).
-/


namespace Amanuensis

namespace Invocation

open Tool (Output Progress Verdict)
open Amanuensis.Task

variable {σ : Type} {i : Invoker σ} {client : Client} {moves : Nat} {name : String} {params : Json}
variable {c : Context} {m : Moment} {t : Tool} {givesUp : Verdict → Prop}

/-! ## The same call undisturbed -/

/-- The same context with hooks that leave the caller's signal alone. -/
def Context.patient (c : Context) : Context :=
  { c with
    onStart := c.onStart.map fun _ => false
    onProgress := c.onProgress.map fun _ _ _ => false
    onComplete := c.onComplete.map fun _ => false
    onError := c.onError.map fun _ => false }

/-- The same call if nobody cancels the caller's signal. -/
def Invoker.undisturbed (i : Invoker σ) (client : Client) (moves : Nat) (name : String)
    (params : Json) (c : Context) (m : Moment) : Report :=
  i.invoke client.sparing moves name params c.patient (m.withStop none)

/-- Where a call stands when its answer is there, before the last hook is
told. -/
def Invoker.standing (i : Invoker σ) (client : Client) (moves : Nat) (name : String)
    (params : Json) (c : Context) (m : Moment) : Moment :=
  (i.perform client moves name params c { m with heard := 0 }).moment

theorem startOf_patient (c : Context) (m : Moment) :
    startOf c.patient (m.withStop none) = (startOf c m).withStop none := by
  unfold startOf tell Context.patient
  cases c.onStart with
  | none => rfl
  | some cancels => cases cancels <;> rfl

theorem settingOf_patient (client : Client) (c : Context) :
    settingOf client.sparing c.patient = (settingOf client c).undisturbed := rfl

/-- The run of its handler. -/
theorem runOf_undisturbed :
    i.runOf client.sparing moves t params c.patient (m.withStop none) =
      runFrom i.handlers.step (settingOf client c).undisturbed
        (.against (i.deadlineOf c (startOf c m))) moves ((startOf c m).withStop none)
        (i.handlers.start t.name params) := by
  rw [Invoker.runOf, startOf_patient, settingOf_patient]
  rfl

/-- The rivals of the handler of a call, when it is entered: one that is there
already, if there is one. -/
abbrev Invoker.rivalOf (i : Invoker σ) (c : Context) (m : Moment) : Option (Instant × Rival) :=
  (Race.against (i.deadlineOf c (startOf c m))).lost (startOf c m) c.signalled
    (some (startOf c m).now)

theorem deadlineOf_patient (i : Invoker σ) (c : Context) (m : Moment) :
    i.deadlineOf c.patient (startOf c.patient (m.withStop none)) =
      i.deadlineOf c (startOf c m) := by
  rw [startOf_patient]
  rfl

/-- A deadline that is there already is so undisturbed. -/
theorem courseOf_undisturbed_of_lost {b : Instant} (h : i.rivalOf c m = some (b, .deadline)) :
    i.courseOf client.sparing moves t params c.patient (m.withStop none) =
      ⟨[], some (.error (rivalFailure t.name (i.timeoutOf c) .deadline)),
        (startOf c m).withStop none⟩ := by
  obtain ⟨hdeadline, -⟩ := Race.deadline_of_lost (fun d => le_deadlineOf) h
  have hlost : i.rivalOf c.patient (m.withStop none) = some ((startOf c m).now, .deadline) := by
    rw [Invoker.rivalOf, deadlineOf_patient, startOf_patient, hdeadline]
    exact Race.lost_of_le (Race.first_undisturbed _ _ _) (Nat.le_refl _)
  rw [courseOf_of_lost hlost, startOf_patient]
  rfl

/-- And otherwise the handler is entered. -/
theorem courseOf_undisturbed_of_open (h : i.rivalOf c m = none) :
    let run := runFrom i.handlers.step (settingOf client c).undisturbed
      (.against (i.deadlineOf c (startOf c m))) moves ((startOf c m).withStop none)
      (i.handlers.start t.name params)
    i.courseOf client.sparing moves t params c.patient (m.withStop none) =
      ⟨.entered t.name params :: run.effects.map happeningOf,
        answerOf t (i.timeoutOf c) run.outcome, run.moment⟩ := by
  have hopen : i.rivalOf c.patient (m.withStop none) = none := by
    rw [Invoker.rivalOf, deadlineOf_patient, startOf_patient]
    refine Race.lost_of_lt (b := (startOf c m).now + 1) (fun w hw => ?_) (Nat.lt_succ_self _)
    rw [Race.first_undisturbed] at hw
    obtain ⟨d, hd, rfl⟩ := Option.map_eq_some_iff.1 hw
    exact Race.lt_deadline (fun d => le_deadlineOf) h d hd
  rw [courseOf_of_open hopen, runOf_undisturbed]
  rfl

/-! ## How an answer comes about -/

/-- How the handler's part of a call comes to an answer, and where it stands
then. -/
inductive Answered (i : Invoker σ) (client : Client) (moves : Nat) (t : Tool) (params : Json)
    (c : Context) (m : Moment) : Except Failure Output → Moment → Prop
  /-- A rival is there before the handler is entered. -/
  | kept {b rival} : i.rivalOf c m = some (b, rival) →
      Answered i client moves t params c m (.error (rivalFailure t.name (i.timeoutOf c) rival))
        (startOf c m)
  /-- The handler is cut off by a rival. -/
  | cut {rival} : i.rivalOf c m = none →
      (i.runOf client moves t params c m).outcome = .lost rival →
      Answered i client moves t params c m (.error (rivalFailure t.name (i.timeoutOf c) rival))
        (i.runOf client moves t params c m).moment
  /-- The handler settles. -/
  | settled {v} : i.rivalOf c m = none →
      (i.runOf client moves t params c m).outcome = .settled v →
      Answered i client moves t params c m (v.normalize t)
        (i.runOf client moves t params c m).moment

theorem answered_of_courseOf {answer : Except Failure Output}
    (h : (i.courseOf client moves t params c m).answer = some answer) :
    Answered i client moves t params c m answer (i.courseOf client moves t params c m).moment := by
  cases hlost : i.rivalOf c m with
  | some w =>
    rw [courseOf_of_lost hlost] at h ⊢
    cases h
    exact .kept hlost
  | none =>
    rw [courseOf_of_open hlost] at h ⊢
    cases houtcome : (i.runOf client moves t params c m).outcome with
    | settled v =>
      rw [houtcome] at h
      cases h
      exact .settled hlost houtcome
    | lost rival =>
      rw [houtcome] at h
      cases h
      exact .cut hlost houtcome
    | stuck =>
      rw [houtcome] at h
      cases h
    | unfinished =>
      rw [houtcome] at h
      cases h

/-! ## Calls that are refused -/

/-- A call that is refused stands where it began. -/
theorem Refused.standing_eq {f : Failure} (h : Refused i name params c m f) (client : Client)
    (moves : Nat) : i.standing client moves name params c m = { m with heard := 0 } := by
  unfold Invoker.standing
  cases h with
  | unknown hfound => simp only [Invoker.perform, hfound, Report.refused]
  | rejected hfound hchecked => simp only [Invoker.perform, hfound, hchecked, Report.refused]
  | cancelled hfound hchecked hcancelled =>
    have hcancelled' : ({ m with heard := 0 } : Moment).cancelled c.signalled = true := hcancelled
    simp only [Invoker.perform, hfound, hchecked, hcancelled', if_true, Report.refused]

/-- It says that it was cancelled only if its signal was cancelled before. -/
theorem Refused.cancelled_of {f : Failure} (h : Refused i name params c m f)
    (hf : f.isCancellation = true) : m.cancelled c.signalled = true := by
  cases h with
  | unknown => cases hf
  | @rejected t f _ hchecked =>
    unfold Tool.check at hchecked
    split at hchecked
    · split at hchecked <;> cases hchecked
      cases hf
    · cases hchecked
      cases hf
  | cancelled _ _ hcancelled => exact hcancelled

/-- When a call has its deadline, from its timeout. -/
theorem deadlineOf_start {span : Duration} (h : i.timeoutOf c = some span) (m : Moment) :
    i.deadlineOf c (startOf c m) = some (due m.now span.nanos) := by
  have hnow : (startOf c m).now = m.now := tell_now _ _ _
  rw [Invoker.deadlineOf, h, Option.map_some, Moment.after, hnow]

namespace Accepted

/-- The undisturbed call is accepted if the call is. -/
theorem undisturbed (h : Accepted i name params c m t) :
    Accepted i name params c.patient (m.withStop none) t where
  found := h.found
  checked := h.checked
  uncancelled := m.withStop_cancelled c.signalled

/-- The signal of a call is not cancelled before its handler is entered. -/
theorem fresh (h : Accepted i name params c m t) (client : Client) :
    (settingOf client c).Fresh (startOf c m) := by
  have hbefore : (settingOf client c).Fresh { m with heard := 0 } := fun s => h.le_stop
  intro s hs
  unfold startOf tell at hs ⊢
  split at hs
  · exact hbefore s hs
  · rename_i cancels _
    cases cancels with
    | false => exact hbefore s hs
    | true =>
      obtain hseen | rfl := Moment.seen_of_cancel hs
      · exact hbefore s hseen
      · exact Nat.le_refl _

/-- **A call answers what it answers undisturbed, at the same instant**,
unless it gives up for a signal that is cancelled by then. -/
theorem answer_lockstep (h : Accepted i name params c m t)
    (hstep : Yielding i.handlers.step givesUp) {answer : Except Failure Output} {stood : Moment}
    (hanswer : Answered i client moves t params c m answer stood) :
    let undisturbed := i.courseOf client.sparing moves t params c.patient (m.withStop none)
    stood.cancelled c.signalled = true ∧
        (answer = .error (.cancelled t.name) ∨ ∃ v, givesUp v ∧ answer = v.normalize t) ∨
      undisturbed.answer = some answer ∧ undisturbed.moment.now = stood.now ∧
        (settingOf client c).Fresh stood := by
  have hfresh := h.fresh client
  intro undisturbed
  cases hanswer with
  | @kept b rival hlost =>
    cases rival with
    | signal => exact .inl ⟨Race.cancelled_of_lost hlost, .inl rfl⟩
    | deadline =>
      have hundisturbed : undisturbed = _ := courseOf_undisturbed_of_lost hlost
      rw [hundisturbed]
      exact .inr ⟨rfl, rfl, hfresh⟩
  | @cut rival hopen hlost =>
    cases rival with
    | signal => exact .inl ⟨cancelled_of_lost hlost, .inl rfl⟩
    | deadline =>
      have hundisturbed : undisturbed = _ := courseOf_undisturbed_of_open hopen
      have hlt := Race.lt_deadline (fun d => le_deadlineOf) hopen
      obtain ⟨hsame, hnow, hthen⟩ := lost_lockstep hstep hfresh hlt hlost
      rw [hundisturbed]
      exact .inr ⟨congrArg (answerOf t (i.timeoutOf c)) hsame, hnow, hthen⟩
  | @settled v hopen hsettled =>
    have hundisturbed : undisturbed = _ := courseOf_undisturbed_of_open hopen
    have hlt := Race.lt_deadline (fun d => le_deadlineOf) hopen
    obtain ⟨hcancelled, hgivesUp⟩ | ⟨hsame, hnow, hthen⟩ :=
      settled_lockstep hstep hfresh hlt hsettled
    · exact .inl ⟨hcancelled, .inr ⟨v, hgivesUp, rfl⟩⟩
    · rw [hundisturbed]
      exact .inr ⟨congrArg (answerOf t (i.timeoutOf c)) hsame, hnow, hthen⟩

/-! ## Whole calls -/

theorem standing_eq (h : Accepted i name params c m t) (client : Client) (moves : Nat) :
    i.standing client moves name params c m = (i.courseOf client moves t params c m).moment := by
  rw [Invoker.standing, h.perform_eq]

/-- How an answer of the whole call comes about. -/
theorem answered (h : Accepted i name params c m t) {answer : Except Failure Output}
    (hanswer : (i.invoke client moves name params c m).answer = some answer) :
    Answered i client moves t params c m answer (i.standing client moves name params c m) := by
  rw [(invoke_accepted h client moves).1] at hanswer
  rw [h.standing_eq]
  exact answered_of_courseOf hanswer

/-- Once a call is going to see its signal cancelled, it has seen so when it
answers. -/
theorem exists_seen_le (h : Accepted i name params c m t) {reach : Nat} {s : Instant}
    (hseen : (i.standing client reach name params c m).seen c.signalled = some s)
    {answer : Except Failure Output}
    (hanswer : (i.invoke client moves name params c m).answer = some answer) :
    ∃ s' ≤ s, (i.standing client moves name params c m).seen c.signalled = some s' := by
  rw [(invoke_accepted h client moves).1] at hanswer
  rw [h.standing_eq] at hseen ⊢
  cases hlost : i.rivalOf c m with
  | some w =>
    rw [courseOf_of_lost hlost] at hseen ⊢
    exact ⟨s, Nat.le_refl s, hseen⟩
  | none =>
    rw [courseOf_of_open hlost] at hseen hanswer ⊢
    refine exists_seen_le_of_over hseen fun hunfinished => ?_
    rw [show (i.runOf client moves t params c m).outcome = .unfinished from hunfinished] at hanswer
    cases hanswer

/-- **A call whose signal is cancelled before it would have answered** answers
that it was cancelled. -/
theorem gives_up (h : Accepted i name params c m t) (hstep : Yielding i.handlers.step givesUp)
    (hverdict : ∀ v, givesUp v → ∃ f, v.normalize t = .error f ∧ f.isCancellation = true)
    {reach : Nat} {s : Instant}
    (hseen : (i.standing client reach name params c m).seen c.signalled = some s)
    (hbefore : ∀ moves answer, (i.undisturbed client moves name params c m).answer = some answer →
      s < (i.undisturbed client moves name params c m).moment.now)
    {answer : Except Failure Output}
    (hanswer : (i.invoke client moves name params c m).answer = some answer) :
    ∃ f, answer = .error f ∧ f.isCancellation = true := by
  obtain ⟨-, hgivenUp⟩ | ⟨hsame, hnow, hfresh⟩ := h.answer_lockstep hstep (h.answered hanswer)
  · obtain rfl | ⟨v, hv, rfl⟩ := hgivenUp
    · exact ⟨_, rfl, rfl⟩
    · exact hverdict v hv
  · -- undisturbed it answers at the same instant, which is not later
    obtain ⟨s', hle, hseen'⟩ := h.exists_seen_le hseen hanswer
    have hlate := hbefore moves answer ((invoke_accepted h.undisturbed _ moves).1.trans hsame)
    rw [Invoker.undisturbed, h.undisturbed.now_eq, hnow] at hlate
    exact absurd (Nat.le_trans (hfresh s' hseen') hle) (Nat.not_le.2 hlate)

/-- **A call says that it was cancelled only if it is**, if the service is
honest. -/
theorem cancelled_of_answer (h : Accepted i name params c m t) {state : σ → Prop}
    {result : Verdict → Prop} (hstep : Uncancelled i.handlers.step state result)
    (hstart : state (i.handlers.start t.name params))
    (hresult : ∀ v f, result v → v.normalize t = .error f → f.isCancellation = false)
    (hhonest : Honest i.handlers.step (settingOf client c)
      (.against (i.deadlineOf c (startOf c m))) (startOf c m) (i.handlers.start t.name params))
    {f : Failure} (hanswer : (i.invoke client moves name params c m).answer = some (.error f))
    (hf : f.isCancellation = true) :
    (i.standing client moves name params c m).cancelled c.signalled = true := by
  have hanswered := h.answered hanswer
  generalize hfailure : (.error f : Except Failure Output) = answer at hanswered
  generalize i.standing client moves name params c m = stood at hanswered ⊢
  cases hanswered with
  | @kept b rival hlost =>
    cases rival with
    | signal => exact Race.cancelled_of_lost hlost
    | deadline =>
      cases hfailure
      cases hf
  | @cut rival _ hlost =>
    cases rival with
    | signal => exact cancelled_of_lost hlost
    | deadline =>
      cases hfailure
      cases hf
  | @settled v _ hsettled =>
    refine Bool.of_not_eq_false fun huncancelled => ?_
    have hresult' := settled_uncancelled hstep hstart hhonest hsettled huncancelled
    cases (hresult v f hresult' hfailure.symm).symm.trans hf

/-- A call has one answer. -/
theorem answers_once (h : Accepted i name params c m t) {more : Nat}
    {answer answer' : Except Failure Output}
    (hanswer : (i.invoke client moves name params c m).answer = some answer)
    (hanswer' : (i.invoke client more name params c m).answer = some answer') :
    i.invoke client moves name params c m = i.invoke client more name params c m := by
  rw [(invoke_accepted h client _).1] at hanswer hanswer'
  have hcourse : i.courseOf client moves t params c m = i.courseOf client more t params c m := by
    cases hlost : i.rivalOf c m with
    | some w => rw [courseOf_of_lost hlost, courseOf_of_lost hlost]
    | none =>
      rw [courseOf_of_open hlost] at hanswer hanswer' ⊢
      have hrun : i.runOf client moves t params c m = i.runOf client more t params c m := by
        refine runFrom_eq_of_over (fun hover => ?_) fun hover => ?_
        · rw [show (i.runOf client moves t params c m).outcome = .unfinished from hover] at hanswer
          cases hanswer
        · rw [show (i.runOf client more t params c m).outcome = .unfinished from hover] at hanswer'
          cases hanswer'
      rw [courseOf_of_open hlost, hrun]
  rw [Invoker.invoke, Invoker.invoke, h.perform_eq, h.perform_eq, hcourse]

/-- When it has answered, the signal that its handler was handed is
cancelled. -/
theorem signalCancelled_eq (h : Accepted i name params c m t) {answer : Except Failure Output}
    (hanswer : (i.invoke client moves name params c m).answer = some answer) :
    (i.invoke client moves name params c m).signalCancelled = some true := by
  rw [(invoke_accepted h client moves).1] at hanswer
  rw [Report.signalCancelled, h.loan_eq, hanswer]
  rfl

/-- **A call that has not answered before its deadline has timed out**, unless
its signal is cancelled. -/
theorem timed_out (h : Accepted i name params c m t) {d : Instant}
    (hd : i.deadlineOf c (startOf c m) = some d) {answer : Except Failure Output}
    (hanswer : (i.invoke client moves name params c m).answer = some answer)
    (hle : d ≤ (i.standing client moves name params c m).now)
    (huncancelled : (i.standing client moves name params c m).cancelled c.signalled = false) :
    answer = .error (rivalFailure t.name (i.timeoutOf c) .deadline) := by
  have hanswered := h.answered hanswer
  generalize i.standing client moves name params c m = stood at hanswered hle huncancelled
  cases hanswered with
  | @kept b rival hlost =>
    cases rival with
    | signal => cases huncancelled.symm.trans (Race.cancelled_of_lost hlost)
    | deadline => rfl
  | @cut rival _ hlost =>
    cases rival with
    | signal => cases huncancelled.symm.trans (cancelled_of_lost hlost)
    | deadline => rfl
  | settled hopen hsettled =>
    have hlt := Race.lt_deadline (fun d => le_deadlineOf) hopen
    exact absurd hle (Nat.not_le.2 (lt_deadline_of_settled hlt hsettled d hd))

/-- **A call returns** if its handler is over in the end, and if it has a
deadline or is going to see its signal cancelled. -/
theorem returns (h : Accepted i name params c m t)
    (hfinishes : i.rivalOf c m = none → Finishes i.handlers.step (settingOf client c)
      (.against (i.deadlineOf c (startOf c m))) (startOf c m) (i.handlers.start t.name params))
    (hrival : i.deadlineOf c (startOf c m) ≠ none ∨
      ∃ reach s, (i.standing client reach name params c m).seen c.signalled = some s) :
    ∃ n, ∀ moves, n ≤ moves → ∃ answer,
      (i.invoke client moves name params c m).answer = some answer := by
  cases hlost : i.rivalOf c m with
  | some w =>
    refine ⟨0, fun moves _ => ?_⟩
    rw [(invoke_accepted h client moves).1, courseOf_of_lost hlost]
    exact ⟨_, rfl⟩
  | none =>
    obtain ⟨n, hover⟩ := hfinishes hlost
    refine ⟨n, fun moves hmoves => ?_⟩
    have hsame : i.runOf client moves t params c m = i.runOf client n t params c m :=
      runFrom_eq_of_le hmoves hover
    have hanswer := (invoke_accepted h client moves).1
    rw [courseOf_of_open hlost, hsame] at hanswer
    rw [hanswer]
    cases houtcome : (i.runOf client n t params c m).outcome with
    | settled v => exact ⟨_, rfl⟩
    | lost rival => exact ⟨_, rfl⟩
    | unfinished => exact absurd houtcome hover
    | stuck =>
      -- it has a rival
      obtain ⟨hdeadline, hnever⟩ := Race.first_eq_none (first_eq_none_of_stuck houtcome)
      obtain hsome | ⟨reach, s, hseen⟩ := hrival
      · exact absurd hdeadline hsome
      · rw [h.standing_eq, courseOf_of_open hlost] at hseen
        obtain ⟨s', -, hseen'⟩ := exists_seen_le_of_over hseen hover
        cases hnever.symm.trans hseen'

/-- A call that is answered undisturbed is over then. -/
theorem passes_of_answer (h : Accepted i name params c m t) (hopen : i.rivalOf c m = none)
    {answer : Except Failure Output}
    (hanswer : (i.undisturbed client moves name params c m).answer = some answer) (b : Instant) :
    Passes i.handlers.step (settingOf client c).undisturbed
      (.against (i.deadlineOf c (startOf c m))) b ((startOf c m).withStop none)
      (i.handlers.start t.name params) := by
  rw [Invoker.undisturbed, (invoke_accepted h.undisturbed _ moves).1,
    courseOf_undisturbed_of_open hopen] at hanswer
  refine ⟨moves, .inl fun hunfinished => ?_⟩
  rw [hunfinished] at hanswer
  cases hanswer

/-- A call whose handler winds up is over once its signal is cancelled. -/
theorem finishes_of_cancelled (h : Accepted i name params c m t) {left : σ → Nat}
    (hstep : Winding i.handlers.step left) {reach : Nat}
    (hcancelled : (i.standing client reach name params c m).cancelled c.signalled = true)
    (hopen : i.rivalOf c m = none) :
    Finishes i.handlers.step (settingOf client c) (.against (i.deadlineOf c (startOf c m)))
      (startOf c m) (i.handlers.start t.name params) := by
  rw [h.standing_eq, courseOf_of_open hopen] at hcancelled
  exact hstep.finishes_of_cancelled hcancelled

end Accepted

end Invocation

end Amanuensis
