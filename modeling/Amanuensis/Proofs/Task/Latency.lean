import Amanuensis.Proofs.Task.Calm
/-!
# How long a turn takes

Cancelled or not, a wait is over by the time that it is due, and a request
by the time of its answer, if it has one. Only a wait that is not cut short
is sure to have lasted.
-/


namespace Amanuensis

namespace Task

variable {σ ε ρ α : Type} {m : Moment} {heeds : Bool}

/-- A wait is over by the time that it is due, and at that time unless it is
cut short. -/
theorem Moment.exists_await {d : Instant} (hd : m.now ≤ d) (signalled heeds : Bool) :
    ∃ w, m.await signalled (some d) heeds = some w ∧ w.1 ≤ d ∧ (w.2 = .elapsed → w.1 = d) := by
  unfold Moment.await
  cases (if heeds then m.seen signalled else none) with
  | none => exact ⟨_, rfl, Nat.le_refl d, fun _ => rfl⟩
  | some s =>
    by_cases hs : s ≤ d
    · exact ⟨_, if_pos hs, Nat.max_le.2 ⟨hs, hd⟩, nofun⟩
    · exact ⟨_, if_neg hs, Nat.le_refl d, fun _ => rfl⟩

/-- A reply that tells something answers by the time of it. -/
theorem Moment.exists_answer {r : Client.Reply α} {told : Nat × Except Client.Error α}
    (htold : r.told = some told) (signalled : Bool) :
    ∃ w, m.answer signalled r = some w ∧ w.1 ≤ due m.now told.1 := by
  unfold Client.Reply.told at htold
  split at htold
  · rename_i delay answer hdelay hending
    cases htold
    obtain ⟨⟨t, how⟩, hwait, hle, -⟩ :=
      Moment.exists_await (le_due m.now delay) signalled r.heeds
    unfold Moment.answer
    rw [hdelay, Option.map_some, show m.after delay = due m.now delay from rfl, hwait]
    cases how with
    | cancelled => exact ⟨_, rfl, hle⟩
    | elapsed =>
      rw [hending]
      exact ⟨_, rfl, hle⟩
  · cases htold

/-- And a request is over by then. -/
theorem Moment.exists_reception {r : Client.Reply α} {told : Nat × Except Client.Error α}
    (htold : r.told = some told) (signalled heeds : Bool) :
    ∃ w, m.reception signalled heeds r = some w ∧ w.1 ≤ due m.now told.1 := by
  obtain ⟨⟨t, a⟩, hanswer, hle⟩ := Moment.exists_answer htold signalled
  unfold Moment.reception
  rw [hanswer]
  by_cases ht : t = m.now
  · exact ⟨_, if_pos ht, hle⟩
  · simp only [if_neg ht]
    have hnow : m.now ≤ t := Moment.le_answer hanswer
    obtain ⟨⟨u, how⟩, hwait, hu, -⟩ :=
      Moment.exists_await hnow signalled heeds
    rw [hwait]
    cases how with
    | cancelled => exact ⟨_, rfl, Nat.le_trans hu hle⟩
    | elapsed => exact ⟨_, rfl, hle⟩

/-! ## Turns -/

variable {e : Setting ε} {turn : Turn σ ε}

/-- A wait ends. -/
theorem turn_wait_isSome {span : Nat} {next : Wake → σ}
    (hturn : e.turn m (.wait (some span) heeds next : Move σ ε ρ) = .ok turn) :
    turn.resume.isSome := by
  cases hturn
  obtain ⟨w, hwait, -⟩ := Moment.exists_await (le_due m.now span) e.signalled heeds
  rw [Option.map_some, show m.after span = due m.now span from rfl, hwait]
  rfl

/-- It is over by the time that it is due, at that time unless it is cut
short, and has no effect. -/
theorem turn_wait_resumes {span : Nat} {next : Wake → σ} {t : Instant} {s : σ}
    (hturn : e.turn m (.wait (some span) heeds next : Move σ ε ρ) = .ok turn)
    (hresume : turn.resume = some (t, s)) :
    turn.effects = [] ∧ ∃ how, s = next how ∧ t ≤ due m.now span ∧
      (how = .elapsed → t = due m.now span) := by
  cases hturn
  obtain ⟨w, hwait, hle, helapsed⟩ := Moment.exists_await (le_due m.now span) e.signalled heeds
  rw [Option.map_some, show m.after span = due m.now span from rfl, hwait] at hresume
  cases hresume
  exact ⟨rfl, w.2, rfl, hle, helapsed⟩

/-- Whatever a request ends with is received, and it is one request at most. -/
theorem turn_ask_received {q : Client.Request} {next : Option (Except Client.Error q.Answer) → σ}
    {t : Instant} {s : σ} (hturn : e.turn m (.ask q heeds next : Move σ ε ρ) = .ok turn)
    (hresume : turn.resume = some (t, s)) :
    (requestsOf turn.effects).length ≤ 1 ∧ ∃ answer, s = next answer := by
  simp only [Setting.turn] at hturn
  split at hturn <;> cases hturn
  · cases hresume
    exact ⟨Nat.zero_le _, none, rfl⟩
  · obtain ⟨w, -, hw⟩ := Option.map_eq_some_iff.1 hresume
    cases hw
    exact ⟨Nat.le_refl _, w.2, rfl⟩

/-- A request that is answered ends by the time of its answer. -/
theorem turn_ask_ends {q : Client.Request} {next : Option (Except Client.Error q.Answer) → σ}
    {told : Nat × Except Client.Error q.Answer}
    (hturn : e.turn m (.ask q heeds next : Move σ ε ρ) = .ok turn)
    (htold : (e.client.reply m.tally q).told = some told) :
    ∃ t s, turn.resume = some (t, s) ∧ t ≤ due m.now told.1 := by
  cases hheeds : heeds && m.cancelled e.signalled with
  | true =>
    -- the signal is cancelled already, and nothing is asked
    simp only [Setting.turn, hheeds, if_true] at hturn
    cases hturn
    exact ⟨m.now, _, rfl, le_due _ _⟩
  | false =>
    rw [turn_ask hheeds] at hturn
    cases hturn
    obtain ⟨w, hreception, hle⟩ := Moment.exists_reception (m := e.sent m q) htold e.signalled heeds
    rw [Setting.sent_now] at hle
    exact ⟨w.1, _, by rw [hreception]; rfl, hle⟩

theorem turn_ask_le {q : Client.Request} {next : Option (Except Client.Error q.Answer) → σ}
    {told : Nat × Except Client.Error q.Answer} {t : Instant} {s : σ}
    (hturn : e.turn m (.ask q heeds next : Move σ ε ρ) = .ok turn)
    (htold : (e.client.reply m.tally q).told = some told) (hresume : turn.resume = some (t, s)) :
    t ≤ due m.now told.1 := by
  obtain ⟨u, next', hends, hle⟩ := turn_ask_ends hturn htold
  cases hresume.symm.trans hends
  exact hle

end Task

end Amanuensis
