import Amanuensis.Proofs.Invocation.Cancellation
import Amanuensis.Proofs.Task.Carryover
import Mathlib.Data.List.Basic
/-!
# Sessions

Calls that are made one after the other, by name or by a free text, whose
contexts share the caller's signal. They leave each other alone
(`session_apart`): none cancels the signal unless somebody acts on it, what was
handed to a handler is of no use once its call has returned, and each call
comes to what it comes to when it is the first.
-/


namespace Amanuensis

namespace Invocation

open Tool (Output)
open Amanuensis.Task (ActedWithin Moment)

variable {σ : Type}

/-! ## Calls of a session -/

/-- A call of a session. -/
inductive Session.Call where
  | named (name : String) (params : Json) (c : Context)
  | free (input : String) (c : Context)

/-- What a call comes to; the route is that of a free text. -/
def Invoker.serve (i : Invoker σ) (client : Client) (moves : Nat) (m : Moment) :
    Session.Call → Option Match.Route × Report
  | .named name params c => (none, i.invoke client moves name params c m)
  | .free input c => i.dispatch client moves input c m

/-- The tool that a call is made for, by its name, and its parameters. -/
inductive Session.Call.Invokes (i : Invoker σ) : Session.Call → String → Json → Context → Prop
  | named {name params c} : Invokes i (.named name params c) name params c
  | free {input c route} : i.router.resolve input = some route →
      Invokes i (.free input c) route.tool.name (route.params input) c

/-- The hook that is told of an answer. -/
def Context.lastHook (c : Context) : Except Failure Output → Option Bool
  | .ok _ => c.onComplete
  | .error _ => c.onError

/-- In the course of a call somebody cancels the caller's signal: one of the hooks
when it is told something, the handler by a move of its own, or whoever does
while a request of the handler arrives. -/
inductive Acted (i : Invoker σ) (client : Client) (moves : Nat) (call : Session.Call)
    (m : Moment) : Prop
  | started {name params c t} : call.Invokes i name params c → Accepted i name params c m t →
      c.onStart = some true → Acted i client moves call m
  | handled {name params c t} : call.Invokes i name params c → Accepted i name params c m t →
      i.rivalOf c m = none →
      ActedWithin i.handlers.step (settingOf client c) (.against (i.deadlineOf c (startOf c m)))
        (startOf c m) (i.handlers.start t.name params) moves →
      Acted i client moves call m
  | finished {name params c answer} : call.Invokes i name params c →
      (i.invoke client moves name params c m).answer = some answer →
      c.lastHook answer = some true → Acted i client moves call m
  | unmatched {input c} : call = .free input c → i.router.resolve input = none →
      c.onError = some true → Acted i client moves call m

variable {i : Invoker σ} {client : Client} {moves : Nat} {name : String} {params : Json}
variable {c : Context} {m : Moment} {t : Tool} {call : Session.Call}

/-- A call comes to what the call of its tool comes to. -/
theorem Session.Call.Invokes.serve_eq (h : call.Invokes i name params c) (client : Client)
    (moves : Nat) (m : Moment) :
    (i.serve client moves m call).2 = i.invoke client moves name params c m := by
  cases h with
  | named => rfl
  | free hroute => simp only [Invoker.serve, Invoker.dispatch, hroute]

/-- One that is made for no tool is a text that fits none. -/
theorem Session.Call.invokes_or_unmatched (i : Invoker σ) (call : Session.Call) :
    (∃ name params c, call.Invokes i name params c) ∨
      ∃ input c, call = .free input c ∧ i.router.resolve input = none := by
  cases call with
  | named name params c => exact .inl ⟨name, params, c, .named⟩
  | free input c =>
    cases hroute : i.router.resolve input with
    | none => exact .inr ⟨input, c, rfl, hroute⟩
    | some route => exact .inl ⟨_, _, _, .free hroute⟩

/-! ## The caller's signal -/

theorem tell_stop {hook : Option Bool} (h : hook ≠ some true) (happening : Happening) :
    (tell hook happening m).2.stop = m.stop := by
  cases hook with
  | none => rfl
  | some cancels =>
    cases cancels with
    | false => rfl
    | true => exact absurd rfl h

theorem Report.close_stop (r : Report) :
    (r.close name params c).moment.stop = r.moment.stop ∨
      ∃ answer, r.answer = some answer ∧ c.lastHook answer = some true := by
  unfold close
  cases hanswer : r.answer with
  | none => exact .inl rfl
  | some answer =>
    by_cases hhook : c.lastHook answer = some true
    · exact .inr ⟨answer, rfl, hhook⟩
    · left
      cases answer with
      | ok o => exact tell_stop hhook _
      | error f => exact tell_stop hhook _

/-- The handler's part of a call leaves the signal as it is, unless somebody
cancels it in its course. -/
theorem Accepted.courseOf_stop (h : Accepted i name params c m t)
    (hcall : call.Invokes i name params c) :
    (i.courseOf client moves t params c m).moment.stop = m.stop ∨
      Acted i client moves call m := by
  by_cases hstart : c.onStart = some true
  · exact .inr (.started hcall h hstart)
  · have hstop : (startOf c m).stop = m.stop := tell_stop hstart _
    cases hrival : i.rivalOf c m with
    | some w =>
      rw [courseOf_of_lost hrival]
      exact .inl hstop
    | none =>
      rw [courseOf_of_open hrival]
      have hrun : (i.runOf client moves t params c m).moment.stop = (startOf c m).stop ∨
          ActedWithin i.handlers.step (settingOf client c)
            (.against (i.deadlineOf c (startOf c m))) (startOf c m)
            (i.handlers.start t.name params) moves := Task.runFrom_stop moves
      obtain hsame | hacted := hrun
      · exact .inl (hsame.trans hstop)
      · exact .inr (.handled hcall h hrival hacted)

/-- **A call leaves the caller's signal as it is**, unless somebody cancels it in
its course. -/
theorem serve_stop (i : Invoker σ) (client : Client) (moves : Nat) (call : Session.Call)
    (m : Moment) :
    (i.serve client moves m call).2.moment.stop = m.stop ∨ Acted i client moves call m := by
  obtain ⟨name, params, c, hcall⟩ | ⟨input, c, rfl, hroute⟩ := call.invokes_or_unmatched i
  · rw [hcall.serve_eq, Invoker.invoke]
    obtain hclosed | ⟨answer, hanswer, hhook⟩ :=
      Report.close_stop (c := c) (i.perform client moves name params c { m with heard := 0 })
    · rw [hclosed]
      obtain ⟨f, hrefused⟩ | ⟨t, haccepted⟩ := refused_or_accepted i name params c m
      · have hstands : (i.perform client moves name params c { m with heard := 0 }).moment =
            { m with heard := 0 } := hrefused.standing_eq client moves
        exact .inl (by rw [hstands])
      · rw [haccepted.perform_eq]
        exact haccepted.courseOf_stop hcall
    · exact .inr (.finished hcall ((Report.close_answer _).trans hanswer) hhook)
  · by_cases hhook : c.onError = some true
    · exact .inr (.unmatched rfl hroute hhook)
    · left
      simp only [Invoker.serve, Invoker.dispatch, hroute]
      exact tell_stop hhook _

/-! ## What was handed to the handler -/

/-- **Once a call has returned its handler has nothing left**: its signal is
cancelled, and what it reports reaches nobody. -/
theorem Accepted.closed (h : Accepted i name params c m t) {answer : Except Failure Output}
    (hanswer : (i.invoke client moves name params c m).answer = some answer) :
    (i.invoke client moves name params c m).signalCancelled = some true ∧
      ∃ reporter, (i.invoke client moves name params c m).reporter = some reporter ∧
        reporter.closed = true ∧ ∀ p, reporter.report p = none := by
  obtain ⟨hcourse, -, hreporter⟩ := invoke_accepted h client moves
  rw [← hcourse, hanswer] at hreporter
  exact ⟨h.signalCancelled_eq hanswer, _, hreporter, rfl, fun p => rfl⟩

/-- What is left of it in copies is of no use either. -/
theorem serve_withdrawn {answer : Except Failure Output} {loan : Loan}
    (hanswer : (i.serve client moves m call).2.answer = some answer)
    (hloan : (i.serve client moves m call).2.loan = some loan) : loan.Withdrawn := by
  obtain ⟨name, params, c, hcall⟩ | ⟨input, c, rfl, hroute⟩ := call.invokes_or_unmatched i
  · rw [hcall.serve_eq] at hanswer hloan
    exact withdrawn_of_answer hanswer hloan
  · -- a text that fits no tool lends nothing
    simp only [Invoker.serve, Invoker.dispatch, hroute] at hloan
    cases hloan

/-! ## Calls that come first -/

/-- The same moment in a session that begins: nothing has been asked of the
service, and nobody has been told anything. Time and signal are as they are. -/
def Session.fresh (m : Moment) : Moment := ⟨m.now, m.stop, .zero, 0⟩

def Course.having (r : Course) (asked : Client.Tally) : Course :=
  { r with moment := r.moment.having asked }

def Report.having (r : Report) (asked : Client.Tally) : Report :=
  { r with moment := r.moment.having asked }

section Having

variable {asked : Client.Tally}

theorem tell_having (hook : Option Bool) (h : Happening) (m : Moment) :
    tell hook h (m.having asked) = ((tell hook h m).1, (tell hook h m).2.having asked) := by
  cases hook with
  | none => rfl
  | some cancels => cases cancels <;> rfl

theorem raceHandler_having (handlers : Tool.Handlers σ) (timeout : Option Duration)
    (reporter : Reporter) (m : Moment) :
    raceHandler handlers client moves t params c timeout reporter (m.having asked) =
      (raceHandler handlers (client.after asked) moves t params c timeout reporter m).having
        asked := by
  have hrun : ∀ race, (handlers.task t.name params).run
      ⟨client, c.signalled, reporter.listener⟩ race moves (m.having asked) =
        ((handlers.task t.name params).run ⟨client.after asked, c.signalled, reporter.listener⟩
          race moves m).having asked := fun race => Task.runFrom_having _ race moves m _
  have hsame : ∀ race : Task.Race,
      race.lost (m.having asked) c.signalled (some (m.having asked).now) =
        race.lost m c.signalled (some m.now) := fun race => rfl
  have hdeadline : (timeout.map fun d => (m.having asked).after d.nanos) =
      timeout.map fun d => m.after d.nanos := rfl
  simp only [raceHandler, hrun, hsame, hdeadline]
  split <;> rfl

theorem perform_having (m : Moment) :
    i.perform client moves name params c (m.having asked) =
      (i.perform (client.after asked) moves name params c m).having asked := by
  cases hfound : i.registry.get? name with
  | none => simp only [Invoker.perform, hfound]; rfl
  | some t =>
    cases hchecked : t.check params with
    | error f => simp only [Invoker.perform, hfound, hchecked]; rfl
    | ok u =>
      have hsame : (m.having asked).cancelled c.signalled = m.cancelled c.signalled := rfl
      cases hcancelled : m.cancelled c.signalled with
      | true =>
        simp only [Invoker.perform, hfound, hchecked, hsame, hcancelled, if_true]
        rfl
      | false =>
        simp only [Invoker.perform, hfound, hchecked, hsame, hcancelled, Bool.false_eq_true,
          if_false, tell_having, raceHandler_having]
        generalize raceHandler _ _ _ _ _ _ _ _ _ = course
        cases hanswer : course.answer <;> simp only [Course.having, hanswer] <;> rfl

theorem Report.close_having (r : Report) :
    (r.having asked).close name params c = (r.close name params c).having asked := by
  obtain ⟨trace, answer, moment, loan⟩ := r
  cases answer with
  | none => rfl
  | some answer =>
    cases answer <;> simp only [close, having, tell_having]

/-- **A call comes to the same**, whatever was asked before. -/
theorem invoke_having (m : Moment) :
    i.invoke client moves name params c (m.having asked) =
      (i.invoke (client.after asked) moves name params c m).having asked := by
  have hperform : i.perform client moves name params c { m.having asked with heard := 0 } =
      (i.perform (client.after asked) moves name params c { m with heard := 0 }).having asked :=
    perform_having { m with heard := 0 }
  rw [Invoker.invoke, hperform, Report.close_having]
  rfl

end Having

/-- Two calls that come to the same, and at the same time, as far as anyone can
tell but the service. -/
structure Alike (r r' : Option Match.Route × Report) : Prop where
  route : r.1 = r'.1
  answer : r.2.answer = r'.2.answer
  trace : r.2.trace = r'.2.trace
  loan : r.2.loan = r'.2.loan
  reporter : r.2.reporter = r'.2.reporter
  signalCancelled : r.2.signalCancelled = r'.2.signalCancelled
  now : r.2.moment.now = r'.2.moment.now
  stop : r.2.moment.stop = r'.2.moment.stop

/-- **A call comes to what it comes to first in a session**, with the signal as
it is and the service as it goes on. -/
theorem serve_fresh (i : Invoker σ) (client : Client) (moves : Nat) (call : Session.Call)
    (m : Moment) :
    Alike (i.serve client moves m call)
      (i.serve (client.after m.tally) moves (Session.fresh m) call) := by
  have hinvoke : ∀ name params c, i.invoke client moves name params c m =
      (i.invoke (client.after m.tally) moves name params c (Session.fresh m)).having m.tally :=
    fun name params c => invoke_having (Session.fresh m)
  cases call with
  | named name params c =>
    simp only [Invoker.serve, hinvoke]
    exact ⟨rfl, rfl, rfl, rfl, rfl, rfl, rfl, rfl⟩
  | free input c =>
    simp only [Invoker.serve, Invoker.dispatch]
    cases i.router.resolve input with
    | some route =>
      simp only [hinvoke]
      exact ⟨rfl, rfl, rfl, rfl, rfl, rfl, rfl, rfl⟩
    | none =>
      cases hhook : c.onError with
      | none => exact ⟨rfl, rfl, rfl, rfl, rfl, rfl, rfl, rfl⟩
      | some cancels => cases cancels <;> exact ⟨rfl, rfl, rfl, rfl, rfl, rfl, rfl, rfl⟩

/-! ## Sessions -/

/-- What happens in a session, one after the other. -/
inductive Session.Step where
  | call (call : Session.Call)
  /-- The caller cancels the signal. -/
  | cancel
  /-- Nothing happens for a while. -/
  | rest (span : Nat)

/-- The calls of a session, each with the moment at which it is made, and the
moment at which the session is over. After a call that never returns nothing
follows. -/
def Invoker.session (i : Invoker σ) (client : Client) (moves : Nat) :
    List Session.Step → Moment → List (Session.Call × Moment) × Moment
  | [], m => ([], m)
  | .cancel :: steps, m => i.session client moves steps m.cancel
  | .rest span :: steps, m => i.session client moves steps (m.goto (m.after span))
  | .call call :: steps, m =>
    let r := (i.serve client moves m call).2
    match r.answer with
    | none => ([(call, m)], r.moment)
    | some _ =>
      let later := i.session client moves steps r.moment
      ((call, m) :: later.1, later.2)

/-- A call that leaves the other calls of its session alone, and is left alone by
them. -/
structure Apart (i : Invoker σ) (client : Client) (moves : Nat) (call : Session.Call)
    (m : Moment) : Prop where
  /-- The caller's signal is what it was when the call was made, unless somebody
  has cancelled it, however the call has ended. -/
  spared : (i.serve client moves m call).2.moment.stop = m.stop ∨ Acted i client moves call m
  /-- Once the call of a tool that has been started returns, the signal of its
  handler is cancelled and its reporter closed, so that it reaches nobody. -/
  closed : ∀ name params c t, call.Invokes i name params c → Accepted i name params c m t →
    ∀ answer, (i.serve client moves m call).2.answer = some answer →
      (i.serve client moves m call).2.signalCancelled = some true ∧
      ∃ reporter, (i.serve client moves m call).2.reporter = some reporter ∧
        reporter.closed = true ∧ ∀ p, reporter.report p = none
  /-- From then on nothing comes of what is done, at whatever time, with copies of
  what was lent to the handler, which find their signal cancelled. -/
  withdrawn : ∀ answer, (i.serve client moves m call).2.answer = some answer →
    ∀ loan, (i.serve client moves m call).2.loan = some loan → ∀ m',
      loan.isCancelled m' = true ∧ ∀ acts, loan.acts m' acts = ⟨[], loan, m'⟩
  /-- Whether or not it returns, nobody cancels the caller's signal by such a copy,
  unless he reports something of which the progress hook makes it so. -/
  lent : ∀ loan, (i.serve client moves m call).2.loan = some loan → ∀ m' acts,
    (loan.acts m' acts).moment.stop = m'.stop ∨ ∃ p cancels n, .report p ∈ acts ∧
      loan.reporter.hook = some cancels ∧ cancels n p = true
  /-- It comes to what it comes to first in a session, if the service goes on as
  it does -/
  first : Alike (i.serve client moves m call)
    (i.serve (client.after m.tally) moves (Session.fresh m) call)
  /-- or does not care what was asked before. -/
  again : (∀ tally tally' q, client.reply tally q = client.reply tally' q) →
    Alike (i.serve client moves m call) (i.serve client moves (Session.fresh m) call)

theorem serve_apart (i : Invoker σ) (client : Client) (moves : Nat) (call : Session.Call)
    (m : Moment) : Apart i client moves call m where
  spared := serve_stop i client moves call m
  closed name params c t hcall haccepted answer hanswer := by
    rw [hcall.serve_eq] at hanswer ⊢
    exact haccepted.closed hanswer
  withdrawn answer hanswer loan hloan m' := by
    have hwithdrawn := serve_withdrawn hanswer hloan
    exact ⟨hwithdrawn.isCancelled_eq m', hwithdrawn.acts_eq m'⟩
  lent loan _ m' acts := loan.acts_stop m' acts
  first := serve_fresh i client moves call m
  again hstateless := by
    have hfirst := serve_fresh i client moves call m
    rwa [Client.after_eq_self hstateless] at hfirst

/-- The signal at the end of a session, in which nobody cancels it. -/
theorem session_stop (i : Invoker σ) (client : Client) (moves : Nat) {steps : List Session.Step}
    {m : Moment} (hcaller : .cancel ∉ steps)
    (hspared : ∀ made ∈ (i.session client moves steps m).1,
      ¬ Acted i client moves made.1 made.2) :
    (i.session client moves steps m).2.stop = m.stop := by
  induction steps generalizing m with
  | nil => rfl
  | cons step steps ih =>
    have hlater : Session.Step.cancel ∉ steps := fun h => hcaller (List.mem_cons_of_mem _ h)
    cases step with
    | cancel => exact absurd List.mem_cons_self hcaller
    | rest span => exact ih hlater hspared
    | call call =>
      have hstop := serve_stop i client moves call m
      cases hanswer : (i.serve client moves m call).2.answer with
      | none =>
        simp only [Invoker.session, hanswer] at hspared ⊢
        exact hstop.resolve_right (hspared _ List.mem_cons_self)
      | some answer =>
        simp only [Invoker.session, hanswer] at hspared ⊢
        have hsame := hstop.resolve_right (hspared _ List.mem_cons_self)
        exact (ih hlater fun made h => hspared made (List.mem_cons_of_mem _ h)).trans hsame

/-- **The calls of a session do not disturb each other**, whatever the handlers,
the contexts and the service are. -/
theorem session_apart (i : Invoker σ) (client : Client) (moves : Nat)
    (steps : List Session.Step) (m : Moment) :
    (∀ made ∈ (i.session client moves steps m).1, Apart i client moves made.1 made.2) ∧
    (.cancel ∉ steps →
      (∀ made ∈ (i.session client moves steps m).1, ¬ Acted i client moves made.1 made.2) →
      (i.session client moves steps m).2.stop = m.stop) :=
  ⟨fun made _ => serve_apart i client moves made.1 made.2, session_stop i client moves⟩

/-- A greeter who takes a second has half a second for the first call and two for
the second. The first times out and the second does not, as each of them would
alone, and only the third is made after the caller has cancelled the signal. -/
theorem reception_session :
    let i := reception (some halfSecond)
    let greet := fun timeout =>
      Session.Step.call (.named "greet" (.obj []) (attentive true timeout))
    let session := i.session silence 5 [greet none, greet (some (.ofMillis 2000)), .cancel,
      greet none] (.start none)
    session.1.map (fun made => (i.serve silence 5 made.2 made.1).2.answer) =
        [some (.error (.timeout "greet" halfSecond)), some (.ok (.text "hello")),
          some (.error (.cancelled "greet"))] ∧
      ∀ made ∈ session.1,
        Alike (i.serve silence 5 made.2 made.1)
          (i.serve silence 5 (Session.fresh made.2) made.1) := by
  intro i greet session
  refine ⟨by decide +kernel, fun made hmade => ?_⟩
  have hapart := (session_apart i silence 5 [greet none, greet (some (.ofMillis 2000)), .cancel,
    greet none] (.start none)).1 made hmade
  exact hapart.again fun tally tally' q => by cases q <;> rfl

end Invocation

end Amanuensis
