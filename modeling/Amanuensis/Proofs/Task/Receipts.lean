import Amanuensis.Proofs.Task.Calm
/-!
# What a run is answered

An answer is received if the run goes on with it: it comes before the
request is given up for the signal, and before a rival ends the run. The
receipts of a run follow its turns, as its effects do, and do not look at the
states of its machine (`received`).
-/


namespace Amanuensis

namespace Task

variable {σ ε ρ : Type}

/-- A request that is over, with what was answered and when. -/
structure Receipt where
  request : Client.Request
  answer : Except Client.Error request.Answer
  time : Instant

/-- What is received of a move. A request that is given up has no answer. -/
def Setting.receipt (e : Setting ε) (m : Moment) : Move σ ε ρ → Option Receipt
  | .ask q heeds _ =>
    if heeds && m.cancelled e.signalled then none
    else
      match (e.sent m q).reception e.signalled heeds (e.client.reply m.tally q) with
      | some (t, some a) => some ⟨q, a, t⟩
      | _ => none
  | _ => none

/-- What is received in a run from a state, of some moves at most. -/
def received (step : Instant → Bool → σ → Move σ ε ρ) (e : Setting ε) (race : Race) :
    (moves : Nat) → Moment → σ → List Receipt
  | 0, _, _ => []
  | moves + 1, m, s =>
    match e.turnAt step m s with
    | .error _ => []
    | .ok turn =>
      match race.beats e.signalled turn, turn.resume with
      | none, some (t, next) =>
        (e.receipt m (step m.now (m.cancelled e.signalled) s)).toList ++
          received step e race moves (turn.moment.goto t) next
      | _, _ => []

variable {step : Instant → Bool → σ → Move σ ε ρ} {e : Setting ε} {race : Race}
variable {m : Moment} {s : σ} {turn : Turn σ ε}

@[simp] theorem received_zero : received step e race 0 m s = [] := rfl

theorem received_of_error {result : ρ} (moves : Nat) (hturn : e.turnAt step m s = .error result) :
    received step e race moves m s = [] := by
  cases moves with
  | zero => rfl
  | succ moves => simp only [received, hturn]

theorem received_of_beats {w : Instant × Rival} (moves : Nat) (hturn : e.turnAt step m s = .ok turn)
    (hbeats : race.beats e.signalled turn = some w) : received step e race moves m s = [] := by
  cases moves with
  | zero => rfl
  | succ moves => simp only [received, hturn, hbeats]

theorem received_of_stuck (moves : Nat) (hturn : e.turnAt step m s = .ok turn)
    (hbeats : race.beats e.signalled turn = none) (hresume : turn.resume = none) :
    received step e race moves m s = [] := by
  cases moves with
  | zero => rfl
  | succ moves => simp only [received, hturn, hbeats, hresume]

theorem received_of_resume {t : Instant} {next : σ} (moves : Nat)
    (hturn : e.turnAt step m s = .ok turn) (hbeats : race.beats e.signalled turn = none)
    (hresume : turn.resume = some (t, next)) :
    received step e race (moves + 1) m s =
      (e.receipt m (step m.now (m.cancelled e.signalled) s)).toList ++
        received step e race moves (turn.moment.goto t) next := by
  simp only [received, hturn, hbeats, hresume]

/-- Only a report reports. -/
theorem reportsOf_turn {move : Move σ ε ρ} (hmove : ∀ event next, move ≠ .report event next)
    (hturn : e.turn m move = .ok turn) : reportsOf turn.effects = [] := by
  cases move with
  | settle result => cases hturn
  | report event next => exact absurd rfl (hmove event next)
  | cancel next =>
    cases hturn
    rfl
  | wait span heeds next =>
    cases hturn
    rfl
  | ask q heeds next =>
    simp only [Setting.turn] at hturn
    split at hturn <;> cases hturn <;> rfl

/-- A run does not end while it reports. -/
theorem Race.beats_report {event : ε} {next : σ}
    (hturn : e.turn m (.report event next : Move σ ε ρ) = .ok turn) :
    race.beats e.signalled turn = none := by
  rw [turn_report] at hturn
  cases hturn
  simp [Race.beats]

/-- **A request ends with what is received of it**, at that instant, or is
given up. -/
theorem turn_ask_receipt {q : Client.Request} {heeds : Bool}
    {next : Option (Except Client.Error q.Answer) → σ} {t : Instant}
    (hturn : e.turn m (.ask q heeds next : Move σ ε ρ) = .ok turn)
    (hresume : turn.resume = some (t, s)) :
    (s = next none ∧ e.receipt m (.ask q heeds next : Move σ ε ρ) = none) ∨
      ∃ a, s = next (some a) ∧ e.receipt m (.ask q heeds next : Move σ ε ρ) = some ⟨q, a, t⟩ := by
  cases hgiven : heeds && m.cancelled e.signalled with
  | true =>
    simp only [Setting.turn, hgiven, if_true] at hturn
    cases hturn
    cases hresume
    exact .inl ⟨rfl, by simp only [Setting.receipt, hgiven, if_true]⟩
  | false =>
    rw [turn_ask hgiven] at hturn
    cases hturn
    obtain ⟨⟨u, a⟩, hreception, hw⟩ := Option.map_eq_some_iff.1 hresume
    cases hw
    simp only [Setting.receipt, hgiven, hreception, Bool.false_eq_true, if_false]
    cases a with
    | none => exact .inl ⟨rfl, rfl⟩
    | some a => exact .inr ⟨a, rfl, rfl⟩

end Task

end Amanuensis
