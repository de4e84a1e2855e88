import Amanuensis.Proofs.Task.Calm
/-!
# Runs that are cancelled while they report

A listener may cancel the signal of the task while an event is reported. Up
to that event the run is the one in front of a listener who leaves the
signal alone, `Setting.patient` (`Reached.patient`), and a machine that is
`Prompt` settles right after it, so that the event is the last effect of the
run (`runFrom_interrupted`).
-/


namespace Amanuensis

namespace Task

variable {σ ε ρ : Type}

/-- The same setting with a listener who leaves the signal alone. -/
def Setting.patient (e : Setting ε) : Setting ε :=
  { e with listener := e.listener.map fun _ _ _ => false }

/-- A machine that settles right after a report if its signal is cancelled
by then. -/
def Prompt (step : Instant → Bool → σ → Move σ ε ρ) : Prop :=
  ∀ now cancelled s event next, step now cancelled s = .report event next →
    ∀ t, ∃ result, step t true next = .settle result

variable {e : Setting ε} {m : Moment}

/-- Nobody else cancels it, if the service does not. -/
theorem Setting.patient_calm (hclient : ∀ tally q, (e.client.reply tally q).cancels = false)
    (hstop : m.stop = none) : e.patient.Calm m := by
  refine fun _ => ⟨⟨hclient, ?_⟩, hstop⟩
  intro cancels hlistener n event
  obtain ⟨f, -, rfl⟩ := Option.map_eq_some_iff.1 hlistener
  rfl

/-- A turn that leaves the signal uncancelled is the same in front of a
patient listener. -/
theorem turn_patient {move : Move σ ε ρ} {turn : Turn σ ε} (hstop : turn.moment.stop = none)
    (hturn : e.turn m move = .ok turn) : e.patient.turn m move = .ok turn := by
  cases move with
  | settle result => cases hturn
  | cancel next => exact hturn
  | wait span heeds next => exact hturn
  | ask q heeds next => exact hturn
  | report event next =>
    cases hlistener : e.listener with
    | none => simpa [Setting.turn, Setting.patient, hlistener] using hturn
    | some cancels =>
      simp only [Setting.turn, Setting.patient, hlistener, Option.map_some] at hturn ⊢
      cases hturn
      split at hstop
      · cases hstop
      · rename_i hcancels
        simp [hcancels]

/-- A turn that cancels the signal is a report, if the service and the
machine leave it alone. -/
theorem turn_eq_report {move : Move σ ε ρ} {turn : Turn σ ε} {stop : Instant}
    (hclient : ∀ tally q, (e.client.reply tally q).cancels = false)
    (hmove : ∀ next, move ≠ .cancel next) (hbefore : m.stop = none)
    (hturn : e.turn m move = .ok turn) (hafter : turn.moment.stop = some stop) :
    stop = m.now ∧ ∃ event next, move = .report event next ∧
      turn.resume = some (m.now, next) := by
  cases move with
  | settle result => cases hturn
  | cancel next => exact absurd rfl (hmove next)
  | wait span heeds next =>
    cases hturn
    rw [hbefore] at hafter
    cases hafter
  | ask q heeds next =>
    simp only [Setting.turn, hclient] at hturn
    split at hturn <;> cases hturn <;> cases hbefore.symm.trans hafter
  | report event next =>
    rw [turn_report] at hturn
    cases hturn
    refine ⟨?_, event, next, rfl, rfl⟩
    simp only [Setting.told] at hafter
    split at hafter
    · cases hbefore.symm.trans hafter
    · split at hafter
      · simpa [Moment.cancel, hbefore] using hafter.symm
      · cases hbefore.symm.trans hafter

/-! ## Up to the event -/

variable {step : Instant → Bool → σ → Move σ ε ρ} {race : Race} {turn : Turn σ ε}
variable {m₀ : Moment} {s₀ s : σ} {n : Nat} {effects : List (Effect ε)}

/-- **As long as nobody has cancelled the signal, the listener might as well
be patient.** -/
theorem Reached.patient (h : Reached step e .free m₀ s₀ n effects m s) (hstop : m.stop = none) :
    Reached step e.patient .free m₀ s₀ n effects m s := by
  induction h with
  | start => exact .start
  | move _ hturn _ hresume ih =>
    exact (ih ((turn_sound hturn).stop hstop)).free_move (turn_patient hstop hturn) hresume

/-- Where a prompt machine goes on, nobody has cancelled its signal. -/
theorem Reached.stop_eq_none (hprompt : Prompt step) (hstep : NeverCancels step)
    (hsignalled : e.signalled = true)
    (hclient : ∀ tally q, (e.client.reply tally q).cancels = false)
    (hstop : m₀.stop = none) (h : Reached step e race m₀ s₀ n effects m s)
    (hturn : e.turnAt step m s = .ok turn) : m.stop = none := by
  induction h generalizing turn with
  | start => exact hstop
  | @move n effects m s before t next _ hbefore _ hresume ih =>
    cases hcancelled : before.moment.stop with
    | none => exact hcancelled
    | some stop =>
      -- the turn was a report, after which the machine settles
      obtain ⟨rfl, event, next', hreport, hresume'⟩ :=
        turn_eq_report hclient (hstep _ _ _) (ih hbefore) hbefore hcancelled
      obtain ⟨rfl, rfl⟩ := Prod.mk.inj (Option.some.inj (hresume.symm.trans hresume'))
      obtain ⟨result, hsettle⟩ := hprompt _ _ _ _ _ hreport m.now
      have hseen : (before.moment.goto m.now).cancelled e.signalled = true := by
        simp [Moment.cancelled, Moment.seen, hsignalled, hcancelled]
      rw [Setting.turnAt, hseen, Moment.goto_now, hsettle] at hturn
      cases hturn

/-- An effect that happens up to a turn is its effect or has happened
before. -/
theorem turn_split {move : Move σ ε ρ} (hturn : e.turn m move = .ok turn)
    {before after : List (Effect ε)} {x : Effect ε}
    (heffects : effects ++ turn.effects = before ++ x :: after) :
    (effects = before ∧ turn.effects = [x]) ∨ ∃ rest, effects = before ++ x :: rest := by
  rcases (turn_sound hturn).one with hnone | ⟨y, hone⟩
  · rw [hnone, List.append_nil] at heffects
    exact .inr ⟨after, heffects⟩
  · rw [hone] at heffects ⊢
    obtain rfl | ⟨rest, z, rfl⟩ := List.eq_nil_or_concat after
    · exact .inl (List.append_inj' heffects rfl)
    · rw [List.concat_eq_append, ← List.cons_append, ← List.append_assoc] at heffects
      exact .inr ⟨rest, (List.append_inj' heffects rfl).1⟩

/-- Every effect on the way to a place is one of a turn at another. -/
theorem Reached.exists_turn {before after : List (Effect ε)} {x : Effect ε}
    (h : Reached step e race m₀ s₀ n effects m s) (heffects : effects = before ++ x :: after) :
    ∃ n m s turn, Reached step e race m₀ s₀ n before m s ∧ e.turnAt step m s = .ok turn ∧
      turn.effects = [x] := by
  induction h generalizing after with
  | start => simp at heffects
  | @move n effects m s turn t next h hturn _ _ ih =>
    obtain ⟨rfl, hone⟩ | ⟨rest, hbefore⟩ := turn_split hturn heffects
    · exact ⟨n, m, s, turn, h, hturn, hone⟩
    · exact ih hbefore

/-- And so is every effect of a run. -/
theorem exists_turn_of_runFrom {moves : Nat} {before after : List (Effect ε)} {x : Effect ε}
    (heffects : (runFrom step e race moves m₀ s₀).effects = before ++ x :: after) :
    ∃ n m s turn, Reached step e race m₀ s₀ n before m s ∧ e.turnAt step m s = .ok turn ∧
      turn.effects = [x] := by
  have hends : Ends step e race m₀ s₀ moves (runFrom step e race moves m₀ s₀) :=
    runFrom_ends moves m₀ s₀
  generalize runFrom step e race moves m₀ s₀ = r at heffects hends
  have hlast : ∀ {n effects m s turn}, Reached step e race m₀ s₀ n effects m s →
      e.turnAt step m s = .ok turn → effects ++ turn.effects = before ++ x :: after →
      ∃ n m s turn, Reached step e race m₀ s₀ n before m s ∧ e.turnAt step m s = .ok turn ∧
        turn.effects = [x] := by
    intro n effects m s turn h hturn heq
    obtain ⟨rfl, hone⟩ | ⟨rest, hbefore⟩ := turn_split hturn heq
    · exact ⟨n, m, s, turn, h, hturn, hone⟩
    · exact h.exists_turn hbefore
  cases hends with
  | unfinished h => exact h.exists_turn heffects
  | settled h => exact h.exists_turn heffects
  | lost h _ hturn => exact hlast h hturn heffects
  | stuck h _ hturn => exact hlast h hturn heffects

/-! ## From the event on -/

/-- A turn with an event as its effect reports it. -/
theorem turn_of_reported {move : Move σ ε ρ} {event : ε} {t : Instant}
    (hturn : e.turn m move = .ok turn) (heffects : turn.effects = [.reported event t]) :
    t = m.now ∧ ∃ next, move = .report event next ∧ turn.moment = e.told m event ∧
      turn.resume = some (m.now, next) := by
  cases move with
  | settle result => cases hturn
  | cancel next =>
    cases hturn
    cases heffects
  | wait span heeds next =>
    cases hturn
    cases heffects
  | ask q heeds next =>
    simp only [Setting.turn] at hturn
    split at hturn <;> cases hturn <;> cases heffects
  | report event' next =>
    rw [turn_report] at hturn
    cases hturn
    simp only [Setting.heard] at heffects
    split at heffects <;> cases heffects
    exact ⟨rfl, next, rfl, rfl, rfl⟩

/-- **A run that is cancelled while it reports an event settles right after
it.** Nothing else happens, and what it settles for is what its machine has
for the cancelled signal; up to there a patient listener would have heard
the same. -/
theorem runFrom_interrupted {cancels : Nat → ε → Bool} {moves : Nat} {event : ε} {t : Instant}
    {before after : List (Effect ε)} (hprompt : Prompt step) (hstep : NeverCancels step)
    (hsignalled : e.signalled = true)
    (hclient : ∀ tally q, (e.client.reply tally q).cancels = false)
    (hlistener : e.listener = some cancels) (hstop : m₀.stop = none)
    (heffects : (runFrom step e .free moves m₀ s₀).effects = before ++ .reported event t :: after)
    (hcancels : cancels (m₀.heard + (reportsOf before).length) event = true) :
    after = [] ∧ ∃ n m s next result, Reached step e.patient .free m₀ s₀ n before m s ∧
      m.now = t ∧ step t false s = .report event next ∧ step t true next = .settle result ∧
      ∃ n m', m'.now = t ∧ ∀ moves, n ≤ moves →
        runFrom step e .free moves m₀ s₀ =
          ⟨before ++ [.reported event t], .settled result, m'⟩ := by
  obtain ⟨n, m, s, turn, h, hturn, hone⟩ := exists_turn_of_runFrom heffects
  have hnone : m.stop = none := h.stop_eq_none hprompt hstep hsignalled hclient hstop hturn
  have hcalm : m.cancelled e.signalled = false := by
    simp [Moment.cancelled, Moment.seen, hnone]
  have hturn' := hturn
  rw [Setting.turnAt, hcalm] at hturn'
  obtain ⟨rfl, next, hmove, hmoment, hresume⟩ := turn_of_reported hturn' hone
  -- the listener has cancelled the signal when the machine goes on
  have hseen : (turn.moment.goto m.now).cancelled e.signalled = true := by
    rw [hmoment, Setting.told, hlistener]
    simp [Moment.cancelled, Moment.seen, hsignalled, h.heard_eq, hcancels, Moment.cancel, hnone]
  obtain ⟨result, hsettle⟩ := hprompt _ _ _ _ _ hmove m.now
  have hnext : Reached step e .free m₀ s₀ (n + 1) (before ++ [.reported event m.now])
      (turn.moment.goto m.now) next := by
    rw [← hone]
    exact h.free_move hturn hresume
  have hsettled : e.turnAt step (turn.moment.goto m.now) next = .error result := by
    rw [Setting.turnAt, hseen, Moment.goto_now, hsettle]
    rfl
  have hrun : ∀ moves, n + 2 ≤ moves → runFrom step e .free moves m₀ s₀ =
      ⟨before ++ [.reported event m.now], .settled result, turn.moment.goto m.now⟩ :=
    fun moves hle => Ends.runFrom_eq (.settled hnext hle hsettled)
  refine ⟨?_, n, m, s, next, result, h.patient hnone, rfl, hmove, hsettle, n + 2,
    turn.moment.goto m.now, rfl, hrun⟩
  -- what has happened by then is all that happens
  have hall : (runFrom step e .free moves m₀ s₀).effects <+:
      (runFrom step e .free (moves + (n + 2)) m₀ s₀).effects :=
    runFrom_effects_prefix (Nat.le_add_right _ _)
  rw [heffects, hrun _ (Nat.le_add_left _ _)] at hall
  have hlength := hall.length_le
  simp only [List.length_append, List.length_cons, List.length_nil] at hlength
  exact List.eq_nil_of_length_eq_zero (by omega)

end Task

end Amanuensis
