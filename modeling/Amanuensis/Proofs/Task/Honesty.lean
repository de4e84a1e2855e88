import Amanuensis.Proofs.Task.Signal
/-!
# Honest services

A service is honest (`Honest`) if it says that a request was cancelled only
where the signal of the task is cancelled by then. Whatever else says so
tells the truth in any case: a wait that is cut short, a request that is
given up and a race that is lost to the signal. So the states to which these
lead are out of reach of a run whose signal is not cancelled
(`Reached.uncancelled`), and so are the results of such states
(`settled_uncancelled`).
-/


namespace Amanuensis

namespace Task

variable {σ τ ε δ ρ π : Type} {e : Setting ε} {move : Move σ ε ρ} {turn : Turn σ ε}
variable {step : Instant → Bool → σ → Move σ ε ρ} {race : Race} {m m₀ : Moment} {t : Instant}
variable {s₀ st : σ} {n moves : Nat} {effects : List (Effect ε)}

/-- The service says that a request was cancelled only if the signal of the
task is cancelled by then. -/
def Setting.HonestAt (e : Setting ε) (m : Moment) : Move σ ε ρ → Prop
  | .ask q _ _ => ∀ t, (e.sent m q).answer e.signalled (e.client.reply m.tally q) =
      some (t, .error .cancelled) → ((e.sent m q).goto t).cancelled e.signalled = true
  | _ => True

/-- It does so all through a run. -/
def Honest (step : Instant → Bool → σ → Move σ ε ρ) (e : Setting ε) (race : Race) (m₀ : Moment)
    (s₀ : σ) : Prop :=
  ∀ n effects m s, Reached step e race m₀ s₀ n effects m s →
    e.HonestAt m (step m.now (m.cancelled e.signalled) s)

/-- A client is honest that never makes such an answer up. -/
theorem honest_of_ending {step : Instant → Bool → σ → Move σ ε ρ} {race : Race} {m₀ : Moment}
    {s₀ : σ} (h : ∀ tally q, (e.client.reply tally q).ending ≠ some (.error .cancelled)) :
    Honest step e race m₀ s₀ := by
  intro n effects m s _
  generalize step m.now (m.cancelled e.signalled) s = move
  cases move with
  | settle | report | cancel | wait => trivial
  | ask q heeds next =>
    intro t hanswer
    obtain htold | ⟨-, hcancelled, -⟩ := Moment.answer_cases hanswer
    · exact absurd (Moment.ending_of_told htold) (h _ _)
    · exact hcancelled

/-! ## Runs whose signal is not cancelled -/

/-- A move that a machine makes while its signal is not cancelled: it settles
with a result of some kind or goes on in a state of some kind, as long as
neither a wait nor a request ends for the signal. -/
def Move.Uncancelled (state : σ → Prop) (result : ρ → Prop) : Move σ ε ρ → Prop
  | .settle r => result r
  | .report _ next => state next
  | .cancel next => state next
  | .wait _ _ next => state (next .elapsed)
  | .ask _ _ next => ∀ answer, answer ≠ .error .cancelled → state (next (some answer))

/-- A machine all of whose moves are so while its signal is not
cancelled. -/
def Uncancelled (step : Instant → Bool → σ → Move σ ε ρ) (state : σ → Prop) (result : ρ → Prop) :
    Prop :=
  ∀ now s, state s → (step now false s).Uncancelled state result

variable {state : σ → Prop} {result : ρ → Prop}

/-- A move that is placed inside another machine remains so. -/
theorem Move.Uncancelled.map {place : σ → τ} {event : ε → δ} {answer : ρ → π}
    {state' : τ → Prop} {result' : π → Prop} (h : move.Uncancelled state result)
    (hstate : ∀ s, state s → state' (place s)) (hresult : ∀ r, result r → result' (answer r)) :
    (move.map place event answer).Uncancelled state' result' := by
  cases move with
  | settle r => exact hresult r h
  | report event next => exact hstate next h
  | cancel next => exact hstate next h
  | wait span heeds next => exact hstate _ h
  | ask q heeds next => exact fun a ha => hstate _ (h a ha)

/-- Where its signal is not cancelled a machine goes on in a state that does
not owe itself to it. -/
theorem turn_uncancelled {next : σ} (h : move.Uncancelled state result)
    (hhonest : e.HonestAt m move) (hturn : e.turn m move = .ok turn)
    (hresume : turn.resume = some (t, next))
    (hend : (turn.moment.goto t).cancelled e.signalled = false) : state next := by
  have hsignal : ∀ {P : Prop}, (turn.moment.goto t).cancelled e.signalled = true → P :=
    fun hcancelled => absurd (hend.symm.trans hcancelled) Bool.false_ne_true
  cases move with
  | settle result => cases hturn
  | report event next' =>
    rw [turn_report] at hturn
    cases hturn
    cases hresume
    exact h
  | cancel next' =>
    cases hturn
    cases hresume
    exact h
  | wait span heeds next' =>
    cases hturn
    obtain ⟨⟨u, how⟩, hwait, hw⟩ := Option.map_eq_some_iff.1 hresume
    cases hw
    cases how with
    | elapsed => exact h
    | cancelled => exact hsignal (Moment.cancelled_of_await hwait)
  | ask q heeds next' =>
    cases hgiven : heeds && m.cancelled e.signalled with
    | true =>
      simp only [Setting.turn, hgiven, if_true] at hturn
      cases hturn
      cases hresume
      exact hsignal ((Bool.and_eq_true _ _).mp hgiven).2
    | false =>
      rw [turn_ask hgiven] at hturn
      cases hturn
      obtain ⟨⟨u, a⟩, hreception, hw⟩ := Option.map_eq_some_iff.1 hresume
      cases hw
      obtain ⟨answer, rfl, hanswer⟩ | ⟨-, hcancelled, -⟩ := Moment.reception_cases hreception
      · refine h answer fun herror => hsignal ?_
        subst herror
        exact hhonest _ hanswer
      · exact hsignal hcancelled

/-- **As long as its signal is not cancelled, a run gets to no state that
owes itself to it.** -/
theorem Reached.uncancelled (hstep : Uncancelled step state result) (hs : state s₀)
    (hhonest : Honest step e race m₀ s₀) (h : Reached step e race m₀ s₀ n effects m st)
    (hend : m.cancelled e.signalled = false) : state st := by
  induction h with
  | start => exact hs
  | @move n effects m st turn t next h hturn _ hresume ih =>
    -- the signal was not cancelled before the turn either
    have hbefore : m.cancelled e.signalled = false := by
      refine Bool.eq_false_iff.2 fun hcancelled => ?_
      have hle : turn.moment.now ≤ t :=
        (turn_sound hturn).now ▸ (turn_sound hturn).le_resume _ hresume
      have hlater := Moment.cancelled_goto (turn_cancelled hturn hcancelled) hle
      exact Bool.false_ne_true (hend.symm.trans hlater)
    have hplace := hhonest _ _ _ _ h
    rw [Setting.turnAt, hbefore] at hturn
    rw [hbefore] at hplace
    exact turn_uncancelled (hstep m.now st (ih hbefore)) hplace hturn hresume hend

/-- **Nor does it settle with such a result.** -/
theorem settled_uncancelled (hstep : Uncancelled step state result) (hs : state s₀)
    (hhonest : Honest step e race m₀ s₀) {r : ρ}
    (hsettled : (runFrom step e race moves m₀ s₀).outcome = .settled r)
    (hend : (runFrom step e race moves m₀ s₀).moment.cancelled e.signalled = false) : result r := by
  obtain ⟨n, effects, st, h, -, hturn⟩ := place_of_settled hsettled
  have hkept := hstep (runFrom step e race moves m₀ s₀).moment.now st
    (h.uncancelled hstep hs hhonest hend)
  rw [Setting.turnAt, hend] at hturn
  rwa [turn_eq_error hturn] at hkept

end Task

end Amanuensis
