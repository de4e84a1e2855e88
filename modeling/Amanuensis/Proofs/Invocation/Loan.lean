import Amanuensis.Proofs.Invocation.Course
/-!
# What is lent to a handler

The holders of copies of what a call has lent may report and cancel at any
time and in any order. None of this cancels the caller's signal, unless the
progress hook does when it is told (`acts_stop`). Once the loan is withdrawn
nothing comes of it at all (`Withdrawn.acts_eq`).
-/


namespace Amanuensis

namespace Invocation

namespace Loan

variable {l : Loan} {m : Task.Moment} {a : Act}

/-- The signal of the loan is cancelled and its reporter closed. -/
structure Withdrawn (l : Loan) : Prop where
  closed : l.reporter.closed = true
  cancelled : l.cancelled = true

/-! ## Single acts -/

/-- The hook stays the same. -/
theorem act_hook (l : Loan) (m : Task.Moment) (a : Act) :
    (l.act m a).loan.reporter = l.reporter := by
  cases a with
  | cancel => rfl
  | report p =>
    rw [act]
    split <;> rfl

/-- Only the hook cancels the caller's signal, when it is told. -/
theorem act_stop (l : Loan) (m : Task.Moment) (a : Act) :
    (l.act m a).moment.stop = m.stop ∨
      ∃ p cancels, a = .report p ∧ l.reporter.hook = some cancels ∧ cancels m.heard p = true := by
  cases a with
  | cancel => exact .inl rfl
  | report p =>
    rw [act, Reporter.listener]
    by_cases hclosed : l.reporter.closed = true
    · rw [if_pos hclosed]
      exact .inl rfl
    · rw [if_neg hclosed]
      cases hhook : l.reporter.hook with
      | none => exact .inl rfl
      | some cancels =>
        cases hcancels : cancels m.heard p with
        | false => exact .inl (by simp [hcancels])
        | true => exact .inr ⟨p, cancels, rfl, rfl, hcancels⟩

/-- What is withdrawn is of no use. -/
theorem Withdrawn.act_eq (h : l.Withdrawn) (m : Task.Moment) (a : Act) :
    l.act m a = ⟨[], l, m⟩ := by
  cases a with
  | cancel =>
    have hsame : l.cancel = l := by
      rw [cancel, ← h.cancelled]
    rw [act, hsame]
  | report p =>
    have hnobody : l.reporter.listener = none := if_pos h.closed
    rw [act, hnobody]

/-! ## Any number of acts -/

/-- **No holder of a copy cancels the caller's signal**, unless he reports
something of which the hook makes it so. -/
theorem acts_stop (l : Loan) (m : Task.Moment) (list : List Act) :
    (l.acts m list).moment.stop = m.stop ∨
      ∃ p cancels n, .report p ∈ list ∧ l.reporter.hook = some cancels ∧ cancels n p = true := by
  induction list generalizing l m with
  | nil => exact .inl rfl
  | cons a rest ih =>
    obtain hfirst | ⟨p, cancels, rfl, hhook, hcancels⟩ := l.act_stop m a
    · obtain hlater | ⟨p, cancels, n, hmem, hhook, hcancels⟩ :=
        ih (l.act m a).loan (l.act m a).moment
      · exact .inl (hlater.trans hfirst)
      · rw [act_hook] at hhook
        exact .inr ⟨p, cancels, n, List.mem_cons_of_mem _ hmem, hhook, hcancels⟩
    · exact .inr ⟨p, cancels, m.heard, List.mem_cons_self, hhook, hcancels⟩

/-- **Nothing comes of acts on what is withdrawn**: nobody is told, and the
loan and the moment are what they were. -/
theorem Withdrawn.acts_eq (h : l.Withdrawn) (m : Task.Moment) (list : List Act) :
    l.acts m list = ⟨[], l, m⟩ := by
  induction list with
  | nil => rfl
  | cons a rest ih =>
    rw [acts, h.act_eq]
    exact ih

/-- The hook is told of what is reported before, and of nothing after that. -/
example (p : Tool.Progress) :
    let l := ofContext { Context.bare with onProgress := some fun _ _ => false }
    (l.acts (.start none) [.report p, .cancel, .report p]).heard = [(p, 0), (p, 0)] ∧
      (l.withdraw.acts (.start none) [.report p]).heard = [] :=
  ⟨rfl, rfl⟩

/-- A copy of a signal that is withdrawn is cancelled at any time. -/
theorem Withdrawn.isCancelled_eq (h : l.Withdrawn) (m : Task.Moment) :
    l.isCancelled m = true := by
  rw [isCancelled, h.cancelled, Bool.true_or]

end Loan

variable {σ : Type} {i : Invoker σ} {client : Client} {moves : Nat} {name : String}
variable {params : Json} {c : Context} {m : Task.Moment} {loan : Loan}

/-- **What a call has lent is withdrawn when it returns.** -/
theorem withdrawn_of_answer {answer : Except Failure Tool.Output}
    (hanswer : (i.invoke client moves name params c m).answer = some answer)
    (hloan : (i.invoke client moves name params c m).loan = some loan) : loan.Withdrawn := by
  obtain ⟨f, hrefused⟩ | ⟨t, haccepted⟩ := refused_or_accepted i name params c m
  · have hnone := Option.map_eq_none_iff.1 (invoke_refused hrefused client moves).2.2
    cases hnone.symm.trans hloan
  · rw [(invoke_accepted haccepted client moves).1] at hanswer
    rw [haccepted.loan_eq, hanswer] at hloan
    cases hloan
    exact ⟨rfl, rfl⟩

end Invocation

end Amanuensis
