import Amanuensis.Proofs.Invocation.Cancellation
import Amanuensis.Proofs.Invocation.Lifecycle
/-!
# What a handler settles with

What a call answers once its handler has won the race (`Wins`), for every tool
and everything that the handler may settle with. An answer of the declared kind
is the answer of the call. A failure of this library is the failure of the call,
however many contexts were put around it on the way (`wrapped`), and no failure
is put into another. Everything else, which is an answer of another kind, an
error of another make or a breakdown, becomes a failure of the handler that
says what it was.
-/


namespace Amanuensis

namespace Tool

/-! ## Contexts -/

/-- A context is put around an error. -/
def within (context : String) : Verdict → Verdict
  | .failure f contexts => .failure f (context :: contexts)
  | .error messages => .error (context :: messages)
  | .output o => .output o
  | .breakdown text => .breakdown text

/-- Contexts are put around an error, the last one first. -/
def wrapped (contexts : List String) (v : Verdict) : Verdict := contexts.foldr within v

theorem wrapped_failure (contexts inner : List String) (f : Failure) :
    wrapped contexts (.failure f inner) = .failure f (contexts ++ inner) := by
  induction contexts with
  | nil => rfl
  | cons context contexts ih => exact congrArg (within context) ih

theorem wrapped_error (contexts messages : List String) :
    wrapped contexts (.error messages) = .error (contexts ++ messages) := by
  induction contexts with
  | nil => rfl
  | cons context contexts ih => exact congrArg (within context) ih

/-- What is no failure is none that contexts were put around. -/
theorem ne_wrapped {v : Verdict} (h : ∀ f contexts, v ≠ .failure f contexts)
    (contexts : List String) (f : Failure) : v ≠ wrapped contexts (.failure f []) := by
  rw [wrapped_failure]
  exact h f _

/-- The messages of a chain, outermost first. -/
def chained (contexts : List String) (root : String) : String :=
  contexts.foldr (fun context rest => context ++ ": " ++ rest) root

theorem intercalate_chain (contexts : List String) (root : String) :
    ": ".intercalate (contexts ++ [root]) = chained contexts root := by
  induction contexts with
  | nil => exact String.intercalate_singleton
  | cons context contexts ih =>
    have hrest : contexts ++ [root] ≠ [] :=
      List.append_ne_nil_of_right_ne_nil _ (List.cons_ne_nil _ _)
    rw [List.cons_append, String.intercalate_cons_of_ne_nil hrest, ih]
    rfl

/-! ## Verdicts -/

variable {t : Tool} {v : Verdict} {f : Failure}

theorem normalize_output (o : Output) : Verdict.normalize t (.output o) = declared t t.name o :=
  rfl

theorem normalize_ok_iff {o : Output} :
    v.normalize t = .ok o ↔ v = .output o ∧ o.kind = t.kind := by
  cases v with
  | output o' =>
    rw [normalize_output, declared]
    split
    · rename_i hkind
      constructor
      · intro h
        obtain rfl := Except.ok.inj h
        exact ⟨rfl, hkind⟩
      · rintro ⟨h, -⟩
        rw [Verdict.output.inj h]
    · rename_i hkind
      refine iff_of_false (by rintro ⟨⟩) ?_
      rintro ⟨h, hkind'⟩
      exact hkind (Verdict.output.inj h ▸ hkind')
  | failure | error | breakdown => exact iff_of_false (by rintro ⟨⟩) (by rintro ⟨⟨⟩, _⟩)

/-- What a call is answered with, from what its handler has settled with. -/
structure Normalized (t : Tool) (v : Verdict) (answer : Except Failure Output) : Prop where
  /-- An answer of the declared kind, and nothing else, is an answer. -/
  answered : ∀ o, answer = .ok o ↔ v = .output o ∧ o.kind = t.kind
  otherKind : ∀ o, v = .output o → o.kind ≠ t.kind →
    answer = .error ⟨.handlerError, "Tool '" ++ t.name ++ "' returned a " ++ o.kind.title ++
      " response but declares " ++ t.kind.title, false⟩
  /-- A failure stays what it is in any contexts. -/
  failure : ∀ contexts f, v = wrapped contexts (.failure f []) → answer = .error f
  /-- Any other error is told with its whole chain. -/
  chain : ∀ contexts root, v = wrapped contexts (.error [root]) →
    answer = .error ⟨.handlerError, chained contexts root, false⟩
  breakdown : ∀ text, v = .breakdown text →
    answer = .error ⟨.handlerError,
      "Tool '" ++ t.name ++ "' panicked: " ++ text.getD "unknown panic", false⟩
  /-- A failure of the call was the handler's, or the handler had none. -/
  unwrapped : ∀ f, answer = .error f →
    (∃ contexts, v = wrapped contexts (.failure f [])) ∨
      f.kind = .handlerError ∧ f.retryable = false ∧
        ∀ contexts g, v ≠ wrapped contexts (.failure g [])

/-- **Every verdict is normalized.** -/
theorem normalized (t : Tool) (v : Verdict) : Normalized t v (v.normalize t) where
  answered o := normalize_ok_iff
  otherKind := by
    rintro o rfl hkind
    rw [normalize_output, declared, if_neg hkind]
    rfl
  failure := by
    rintro contexts f rfl
    rw [wrapped_failure]
    rfl
  chain := by
    rintro contexts root rfl
    rw [wrapped_error, ← intercalate_chain]
    rfl
  breakdown := by
    rintro text rfl
    rfl
  unwrapped f hf := by
    cases v with
    | failure g contexts =>
      obtain rfl : g = f := Except.error.inj hf
      exact .inl ⟨contexts, by rw [wrapped_failure, List.append_nil]⟩
    | output o =>
      rw [normalize_output, declared] at hf
      split at hf
      · cases hf
      · obtain rfl := Except.error.inj hf
        exact .inr ⟨rfl, rfl, ne_wrapped nofun⟩
    | error messages =>
      obtain rfl := Except.error.inj hf
      exact .inr ⟨rfl, rfl, ne_wrapped nofun⟩
    | breakdown text =>
      obtain rfl := Except.error.inj hf
      exact .inr ⟨rfl, rfl, ne_wrapped nofun⟩

end Tool

/-! ## Calls -/

namespace Invocation

open Tool (Normalized Verdict chained wrapped)

variable {σ : Type} {i : Invoker σ} {client : Client} {moves : Nat} {name : String}
variable {params : Json} {c : Context} {m : Task.Moment} {t : Tool} {v : Verdict}

/-- The handler of a call wins the race with what it settles with: no rival is
there when it is entered, and it has settled before one comes. -/
structure Wins (i : Invoker σ) (client : Client) (moves : Nat) (t : Tool) (params : Json)
    (c : Context) (m : Task.Moment) (v : Verdict) : Prop where
  entered : i.rivalOf c m = none
  settled : (i.runOf client moves t params c m).outcome = .settled v

/-- **What the handler settles with** when it wins the race is what the call is
answered with, normalized. -/
theorem verdict_answered (i : Invoker σ) (client : Client) (moves : Nat) (name : String)
    (params : Json) (c : Context) (m : Task.Moment) (t : Tool) (v : Verdict)
    (haccepted : Accepted i name params c m t) (hwins : Wins i client moves t params c m v) :
    t.name = name ∧ ∃ answer, (i.invoke client moves name params c m).answer = some answer ∧
      Normalized t v answer := by
  refine ⟨haccepted.name_eq, v.normalize t, ?_, Tool.normalized t v⟩
  -- past its checks and without a rival the call is its run, whose verdict it answers with
  rw [(invoke_accepted haccepted client moves).1, courseOf_of_open hwins.entered]
  exact congrArg (answerOf t (i.timeoutOf c)) hwins.settled

/-- A reception whose greeter settles at once. -/
def deskOf (v : Verdict) : Invoker Tool.Routine :=
  { reception none with handlers := .ofRoutines [("greet", [.settle v])] }

theorem deskOf_wins (v : Verdict) :
    Wins (deskOf v) silence 1 greeter (.obj []) (attentive false none) (.start none) v :=
  ⟨rfl, rfl⟩

/-- A failure of the service that was put into two contexts, and an error of
another make in the same contexts. -/
theorem desk_normalized :
    let contexts := ["at the desk", "while greeting"]
    let call := fun v => ((deskOf v).invoke silence 1 "greet" (.obj []) (attentive false none)
      (.start none)).answer
    call (wrapped contexts (.failure (.remote "RATE_LIMIT" "quota exhausted") [])) =
        some (.error ⟨.remote "RATE_LIMIT", "quota exhausted", true⟩) ∧
      call (wrapped contexts (.error ["disk on fire"])) =
        some (.error ⟨.handlerError, "at the desk: while greeting: disk on fire", false⟩) := by
  intro contexts call
  have haccepted : ∀ v, Accepted (deskOf v) "greet" (.obj []) (attentive false none)
      (.start none) greeter := fun _ => ⟨rfl, rfl, rfl⟩
  constructor
  · obtain ⟨-, answer, hanswer, hnormalized⟩ := verdict_answered _ _ _ _ _ _ _ _ _
      (haccepted _) (deskOf_wins (wrapped contexts
        (.failure (.remote "RATE_LIMIT" "quota exhausted") [])))
    exact hanswer.trans (congrArg some (hnormalized.failure contexts _ rfl))
  · obtain ⟨-, answer, hanswer, hnormalized⟩ := verdict_answered _ _ _ _ _ _ _ _ _
      (haccepted _) (deskOf_wins (wrapped contexts (.error ["disk on fire"])))
    exact hanswer.trans (congrArg some (hnormalized.chain contexts _ rfl))

end Invocation

end Amanuensis
