import Amanuensis.Invocation.Call
import Amanuensis.Proofs.Task.Interruption
/-!
# The course of a call

A call is either refused before the start hook is told (`Refused`) or
accepted (`Accepted`), and then its handler runs against the signal and the
deadline. What is answered, what happens and what becomes of the reporter is
read off either case once and for all (`invoke_refused`, `invoke_accepted`):
statements about calls are proved from these and from the runs of handlers.
-/


namespace Amanuensis

namespace Invocation

open Tool (Output)

variable {σ : Type}

/-- Why a call is refused before the start hook is told. The name comes
first, then the parameters, and then the signal. -/
inductive Refused (i : Invoker σ) (name : String) (params : Json) (c : Context)
    (m : Task.Moment) : Failure → Prop
  | unknown : i.registry.get? name = none → Refused i name params c m (.toolNotFound name)
  | rejected {t f} : i.registry.get? name = some t → t.check params = .error f →
      Refused i name params c m f
  | cancelled {t} : i.registry.get? name = some t → t.check params = .ok () →
      m.cancelled c.signalled = true → Refused i name params c m (.cancelled name)

/-- A call of a tool that is not refused. -/
structure Accepted (i : Invoker σ) (name : String) (params : Json) (c : Context) (m : Task.Moment)
    (t : Tool) : Prop where
  found : i.registry.get? name = some t
  checked : t.check params = .ok ()
  uncancelled : m.cancelled c.signalled = false

variable {i : Invoker σ} {client : Client} {moves : Nat} {name : String} {params : Json}
variable {c : Context} {m : Task.Moment} {t : Tool} {f : Failure}

theorem refused_or_accepted (i : Invoker σ) (name : String) (params : Json) (c : Context)
    (m : Task.Moment) :
    (∃ f, Refused i name params c m f) ∨ ∃ t, Accepted i name params c m t := by
  cases hfound : i.registry.get? name with
  | none => exact .inl ⟨_, .unknown hfound⟩
  | some t =>
    cases hchecked : t.check params with
    | error f => exact .inl ⟨f, .rejected hfound hchecked⟩
    | ok u =>
      cases hcancelled : m.cancelled c.signalled with
      | true => exact .inl ⟨_, .cancelled hfound hchecked hcancelled⟩
      | false => exact .inr ⟨t, hfound, hchecked, hcancelled⟩

/-- A call that is accepted is not refused. -/
theorem Accepted.not_refused (h : Accepted i name params c m t) :
    ¬ Refused i name params c m f := by
  intro hrefused
  cases hrefused with
  | unknown hfound => cases h.found.symm.trans hfound
  | rejected hfound hchecked =>
    cases h.found.symm.trans hfound
    cases h.checked.symm.trans hchecked
  | cancelled _ _ hcancelled => cases h.uncancelled.symm.trans hcancelled

/-- It is the call of the tool of that name. -/
theorem Accepted.name_eq (h : Accepted i name params c m t) : t.name = name := by
  simpa using List.find?_some h.found

/-! ## Closing a call -/

/-- What happens when a hook is told of something, if there is one. -/
def told {α : Type} (hook : Option α) (h : Happening) : List Happening :=
  if hook.isSome then [h] else []

@[simp] theorem tell_fst (hook : Option Bool) (h : Happening) (m : Task.Moment) :
    (tell hook h m).1 = told hook h := by
  cases hook <;> rfl

@[simp] theorem tell_now (hook : Option Bool) (h : Happening) (m : Task.Moment) :
    (tell hook h m).2.now = m.now := by
  cases hook with
  | none => rfl
  | some cancels => cases cancels <;> rfl

/-- What the last hook is told of an answer. -/
def lastTold (c : Context) : Except Failure Output → List Happening
  | .ok o => told c.onComplete (.completed o)
  | .error f => told c.onError (.failed f)

/-- What happens once the answer of a call is there. -/
def closing (name : String) (params : Json) (c : Context) :
    Option (Except Failure Output) → List Happening
  | none => []
  | some answer => .audited (.of name params answer) :: lastTold c answer

namespace Report

@[simp] theorem close_answer (r : Report) :
    (r.close name params c).answer = r.answer := by
  unfold close
  split
  · rfl
  · cases r.answer <;> rfl

@[simp] theorem close_trace (r : Report) :
    (r.close name params c).trace = r.trace ++ closing name params c r.answer := by
  unfold close closing
  cases r.answer with
  | none => exact (List.append_nil _).symm
  | some answer => cases answer <;> simp [lastTold]

@[simp] theorem close_loan (r : Report) :
    (r.close name params c).loan = r.loan := by
  unfold close
  split
  · rfl
  · cases r.answer <;> rfl

@[simp] theorem close_reporter (r : Report) :
    (r.close name params c).reporter = r.reporter :=
  congrArg (Option.map Loan.reporter) (close_loan r)

@[simp] theorem close_now (r : Report) :
    (r.close name params c).moment.now = r.moment.now := by
  unfold close
  split
  · rfl
  · rename_i answer _
    cases answer <;> exact tell_now _ _ _

end Report

/-! ## The two cases -/

/-- The deadline of a call: its own, or else the one that calls usually
have. -/
def Invoker.timeoutOf (i : Invoker σ) (c : Context) : Option Duration :=
  c.timeout <|> i.defaultTimeout

/-- When a call that begins now has its deadline. -/
def Invoker.deadlineOf (i : Invoker σ) (c : Context) (m : Task.Moment) : Option Instant :=
  (i.timeoutOf c).map fun d => m.after d.nanos

/-- What the handler of a call runs in. -/
def settingOf (client : Client) (c : Context) : Task.Setting Tool.Progress :=
  ⟨client, c.signalled, c.onProgress⟩

/-- The moment at which the handler of a call is entered: the start hook has
been told, and the count of progress begins anew. -/
def startOf (c : Context) (m : Task.Moment) : Task.Moment :=
  (tell c.onStart .started { m with heard := 0 }).2

/-- What the handler of a call comes to. -/
def Invoker.courseOf (i : Invoker σ) (client : Client) (moves : Nat) (t : Tool) (params : Json)
    (c : Context) (m : Task.Moment) : Course :=
  raceHandler i.handlers client moves t params c (i.timeoutOf c) (Reporter.ofContext c)
    (startOf c m)

/-- The run of the handler of a call. -/
def Invoker.runOf (i : Invoker σ) (client : Client) (moves : Nat) (t : Tool) (params : Json)
    (c : Context) (m : Task.Moment) : Task.Record Tool.Progress Tool.Verdict :=
  (i.handlers.task t.name params).run (settingOf client c)
    (.against (i.deadlineOf c (startOf c m))) moves (startOf c m)

/-- **A call that is refused.** Nothing happens but that it is closed. -/
theorem invoke_refused (h : Refused i name params c m f) (client : Client) (moves : Nat) :
    (i.invoke client moves name params c m).answer = some (.error f) ∧
      (i.invoke client moves name params c m).trace = closing name params c (some (.error f)) ∧
      (i.invoke client moves name params c m).reporter = none := by
  have hperform : i.perform client moves name params c { m with heard := 0 } =
      .refused f { m with heard := 0 } := by
    cases h with
    | unknown hfound => simp only [Invoker.perform, hfound]
    | rejected hfound hchecked => simp only [Invoker.perform, hfound, hchecked]
    | cancelled hfound hchecked hcancelled =>
      have hcancelled' : ({ m with heard := 0 } : Task.Moment).cancelled c.signalled = true :=
        hcancelled
      simp only [Invoker.perform, hfound, hchecked, hcancelled', if_true]
  simp [Invoker.invoke, hperform, Report.refused, Report.reporter]

/-- A call that is accepted, up to its answer. -/
theorem Accepted.perform_eq (h : Accepted i name params c m t) :
    i.perform client moves name params c { m with heard := 0 } =
      ⟨told c.onStart .started ++ (i.courseOf client moves t params c m).trace,
        (i.courseOf client moves t params c m).answer,
        (i.courseOf client moves t params c m).moment,
        some ⟨⟨c.onProgress, (i.courseOf client moves t params c m).answer.isSome⟩, c.signalled,
          (i.courseOf client moves t params c m).answer.isSome⟩⟩ := by
  have huncancelled : ({ m with heard := 0 } : Task.Moment).cancelled c.signalled = false :=
    h.uncancelled
  simp only [Invoker.perform, h.found, h.checked, huncancelled, tell_fst, Invoker.courseOf,
    Invoker.timeoutOf, startOf, Bool.false_eq_true, if_false, Loan.ofContext]
  generalize raceHandler _ _ _ _ _ _ _ _ _ = course
  cases hanswer : course.answer <;> simp only [Option.isSome] <;> rfl

/-- What was lent to the handler is withdrawn if that comes to an answer. -/
theorem Accepted.loan_eq (h : Accepted i name params c m t) (client : Client) (moves : Nat) :
    (i.invoke client moves name params c m).loan =
      some ⟨⟨c.onProgress, (i.courseOf client moves t params c m).answer.isSome⟩, c.signalled,
        (i.courseOf client moves t params c m).answer.isSome⟩ := by
  rw [Invoker.invoke, Report.close_loan, h.perform_eq]

/-- **A call that is accepted.** The start hook is told, the handler runs,
and the call is closed if that comes to an answer. -/
theorem invoke_accepted (h : Accepted i name params c m t) (client : Client) (moves : Nat) :
    (i.invoke client moves name params c m).answer =
        (i.courseOf client moves t params c m).answer ∧
      (i.invoke client moves name params c m).trace =
        told c.onStart .started ++ (i.courseOf client moves t params c m).trace ++
          closing name params c (i.courseOf client moves t params c m).answer ∧
      (i.invoke client moves name params c m).reporter =
        some ⟨c.onProgress, (i.courseOf client moves t params c m).answer.isSome⟩ := by
  simp [Invoker.invoke, h.perform_eq, Report.reporter]

/-- It returns when that is over. -/
theorem Accepted.now_eq (h : Accepted i name params c m t) (client : Client) (moves : Nat) :
    (i.invoke client moves name params c m).moment.now =
      (i.courseOf client moves t params c m).moment.now := by
  simp [Invoker.invoke, h.perform_eq]

/-- A rival that is there already keeps the handler from being entered. -/
theorem courseOf_of_lost {b : Instant} {rival : Task.Rival}
    (hlost : (Task.Race.against (i.deadlineOf c (startOf c m))).lost (startOf c m) c.signalled
      (some (startOf c m).now) = some (b, rival)) :
    i.courseOf client moves t params c m =
      ⟨[], some (.error (rivalFailure t.name (i.timeoutOf c) rival)), startOf c m⟩ := by
  rw [Invoker.deadlineOf] at hlost
  simp only [Invoker.courseOf, raceHandler, hlost]

/-- If there is none it is entered and runs. -/
theorem courseOf_of_open
    (hopen : (Task.Race.against (i.deadlineOf c (startOf c m))).lost (startOf c m) c.signalled
      (some (startOf c m).now) = none) :
    i.courseOf client moves t params c m =
      ⟨.entered t.name params :: (i.runOf client moves t params c m).effects.map happeningOf,
        answerOf t (i.timeoutOf c) (i.runOf client moves t params c m).outcome,
        (i.runOf client moves t params c m).moment⟩ := by
  rw [Invoker.deadlineOf] at hopen
  simp only [Invoker.courseOf, raceHandler, hopen]
  rfl

/-- **Every answer of a call** is the failure that it was refused with, the
failure of a rival, or what its handler settled with. -/
theorem answer_cases {answer : Except Failure Output}
    (h : (i.invoke client moves name params c m).answer = some answer) :
    (∃ f, Refused i name params c m f ∧ answer = .error f) ∨
      ∃ t, Accepted i name params c m t ∧
        ((∃ rival, answer = .error (rivalFailure t.name (i.timeoutOf c) rival)) ∨
          ∃ v, (i.runOf client moves t params c m).outcome = .settled v ∧
            answer = v.normalize t) := by
  obtain ⟨f, hrefused⟩ | ⟨t, haccepted⟩ := refused_or_accepted i name params c m
  · rw [(invoke_refused hrefused client moves).1] at h
    cases h
    exact .inl ⟨f, hrefused, rfl⟩
  · refine .inr ⟨t, haccepted, ?_⟩
    rw [(invoke_accepted haccepted client moves).1] at h
    cases hlost : (Task.Race.against (i.deadlineOf c (startOf c m))).lost (startOf c m) c.signalled
        (some (startOf c m).now) with
    | some w =>
      rw [courseOf_of_lost hlost] at h
      cases h
      exact .inl ⟨w.2, rfl⟩
    | none =>
      rw [courseOf_of_open hlost] at h
      cases houtcome : (i.runOf client moves t params c m).outcome with
      | settled v =>
        rw [houtcome] at h
        cases h
        exact .inr ⟨v, rfl, rfl⟩
      | lost rival =>
        rw [houtcome] at h
        cases h
        exact .inl ⟨rival, rfl⟩
      | stuck =>
        rw [houtcome] at h
        cases h
      | unfinished =>
        rw [houtcome] at h
        cases h

end Invocation

end Amanuensis
