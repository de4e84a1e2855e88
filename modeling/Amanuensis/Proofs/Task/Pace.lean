import Amanuensis.Proofs.Task.Clock
/-!
# Machines that keep asking

A machine is `Busy` if there are only so many moves between two of its
requests, whatever is answered and whoever cancels its signal. The moves of
its runs are bounded by their requests (`Busy.moves_le`), so a run that
makes only so many requests is over in the end (`Busy.finishes`), and has
settled unless it waits for something that does not come
(`Busy.exists_settled`). One that makes only so many requests before an instant
is over or gets to that instant (`Busy.passes`).
-/


namespace Amanuensis

namespace Task

variable {σ ε ρ : Type}

/-- A move after which fewer moves than so many are left before the next
request; after a request it may be some number again. -/
def Move.Spends (left : σ → Nat) (most here : Nat) : Move σ ε ρ → Prop
  | .settle _ => True
  | .report _ next => left next < here
  | .cancel next => left next < here
  | .wait _ _ next => ∀ how, left (next how) < here
  | .ask _ _ next => left (next none) < here ∧ ∀ answer, left (next (some answer)) ≤ most

/-- A machine that makes so many moves at most between two requests. -/
def Busy (step : Instant → Bool → σ → Move σ ε ρ) (left : σ → Nat) (most : Nat) : Prop :=
  ∀ now cancelled s, (step now cancelled s).Spends left most (left s)

variable {step : Instant → Bool → σ → Move σ ε ρ} {e : Setting ε} {race : Race}
variable {turn : Turn σ ε} {left : σ → Nat} {most : Nat}
variable {m₀ m : Moment} {s₀ s next : σ} {n : Nat} {t : Instant} {effects : List (Effect ε)}

/-- What a turn leaves: fewer moves, or one more request. -/
theorem turn_spends {move : Move σ ε ρ} {here : Nat} (hspends : move.Spends left most here)
    (hturn : e.turn m move = .ok turn) (hresume : turn.resume = some (t, next)) :
    left next + 1 ≤ here + (most + 1) * (requestsOf turn.effects).length := by
  have hless : left next < here → left next + 1 ≤
      here + (most + 1) * (requestsOf turn.effects).length := fun h =>
    Nat.le_trans h (Nat.le_add_right _ _)
  cases move with
  | settle result => cases hturn
  | report event next =>
    simp only [Setting.turn] at hturn
    split at hturn <;> cases hturn <;> cases hresume <;> exact hless hspends
  | cancel next =>
    cases hturn
    cases hresume
    exact hless hspends
  | wait span heeds next =>
    cases hturn
    obtain ⟨w, -, hw⟩ := Option.map_eq_some_iff.1 hresume
    cases hw
    exact hless (hspends w.2)
  | ask q heeds next =>
    simp only [Setting.turn] at hturn
    split at hturn <;> cases hturn
    · cases hresume
      exact hless hspends.1
    · obtain ⟨⟨u, answer⟩, -, hw⟩ := Option.map_eq_some_iff.1 hresume
      cases hw
      cases answer with
      | none => exact hless hspends.1
      | some answer =>
        have hle : left (next (some answer)) ≤ most := hspends.2 answer
        simp only [requestsOf_asked, List.length_singleton]
        omega

/-- **The moves of a busy machine are bounded by its requests.** -/
theorem Busy.moves_le (hbusy : Busy step left most)
    (h : Reached step e race m₀ s₀ n effects m s) :
    n + left s ≤ left s₀ + (most + 1) * (requestsOf effects).length := by
  induction h with
  | start => simp
  | move _ hturn _ hresume ih =>
    have hleft := turn_spends (hbusy _ _ _) hturn hresume
    rw [requestsOf_append, List.length_append, Nat.mul_add]
    omega

/-- A run goes on among the places of a kind for as many moves as one likes,
if from each of them it goes on to another. -/
theorem exists_reached {P : Moment → Prop} (hstart : P m₀)
    (hnext : ∀ n effects m s, Reached step e .free m₀ s₀ n effects m s → P m →
      ∃ turn t next, e.turnAt step m s = .ok turn ∧ turn.resume = some (t, next) ∧
        P (turn.moment.goto t)) (n : Nat) :
    ∃ effects m s, Reached step e .free m₀ s₀ n effects m s ∧ P m := by
  induction n with
  | zero => exact ⟨[], m₀, s₀, .start, hstart⟩
  | succ n ih =>
    obtain ⟨effects, m, s, h, hP⟩ := ih
    obtain ⟨turn, t, next, hturn, hresume, hP'⟩ := hnext n effects m s h hP
    exact ⟨_, _, _, h.free_move hturn hresume, hP'⟩

/-! ## Runs that are over -/

/-- Something holds of a run in the end if it does from wherever its next turn
leads. It has to hold of runs that are over, whatever was done before. -/
theorem exists_run_of_turn {holds : Record ε ρ → Prop}
    (hover : ∀ r, r.outcome ≠ .unfinished → holds r)
    (hafter : ∀ effects r, holds r → holds (r.after effects))
    (h : ∀ turn t next, e.turnAt step m s = .ok turn → turn.resume = some (t, next) →
      ∃ moves, holds (runFrom step e race moves (turn.moment.goto t) next)) :
    ∃ moves, holds (runFrom step e race moves m s) := by
  cases hturn : e.turnAt step m s with
  | error result =>
    refine ⟨1, hover _ ?_⟩
    rw [runFrom_of_error 0 hturn]
    nofun
  | ok turn =>
    cases hbeats : race.beats e.signalled turn with
    | some w =>
      refine ⟨1, hover _ ?_⟩
      rw [runFrom_of_beats 0 hturn hbeats]
      nofun
    | none =>
      cases hresume : turn.resume with
      | none =>
        refine ⟨1, hover _ ?_⟩
        rw [runFrom_of_stuck 0 hturn hbeats hresume]
        nofun
      | some w =>
        obtain ⟨moves, hlater⟩ := h turn w.1 w.2 hturn hresume
        exact ⟨moves + 1, runFrom_of_resume moves hturn hbeats hresume ▸ hafter _ _ hlater⟩

/-- A run that is over after finitely many moves, one way or another. -/
def Finishes (step : Instant → Bool → σ → Move σ ε ρ) (e : Setting ε) (race : Race) (m : Moment)
    (s : σ) : Prop :=
  ∃ moves, (runFrom step e race moves m s).outcome ≠ .unfinished

theorem finishes_of_turn
    (h : ∀ turn t next, e.turnAt step m s = .ok turn → turn.resume = some (t, next) →
      Finishes step e race (turn.moment.goto t) next) : Finishes step e race m s :=
  exists_run_of_turn (fun _ hover => hover) (fun _ _ hover => hover) h

/-- A run that is over after finitely many moves, or gets to an instant. -/
def Passes (step : Instant → Bool → σ → Move σ ε ρ) (e : Setting ε) (race : Race) (b : Instant)
    (m : Moment) (s : σ) : Prop :=
  ∃ moves, (runFrom step e race moves m s).outcome ≠ .unfinished ∨
    b ≤ (runFrom step e race moves m s).moment.now

theorem Finishes.passes (h : Finishes step e race m s) (b : Instant) :
    Passes step e race b m s := by
  obtain ⟨moves, hover⟩ := h
  exact ⟨moves, .inl hover⟩

theorem passes_of_turn {b : Instant}
    (h : ∀ turn t next, e.turnAt step m s = .ok turn → turn.resume = some (t, next) →
      Passes step e race b (turn.moment.goto t) next) : Passes step e race b m s := by
  have hover : ∀ r : Record ε ρ, r.outcome ≠ .unfinished →
      r.outcome ≠ .unfinished ∨ b ≤ r.moment.now := fun _ => .inl
  exact exists_run_of_turn hover (fun _ _ hpasses => hpasses) h

/-- After so many moves a busy machine is over, or has made more requests than
so many. -/
theorem Busy.over_or_exceeds (hbusy : Busy step left most) (bound : Nat) :
    ∃ moves, (runFrom step e race moves m₀ s₀).outcome ≠ .unfinished ∨
      ∃ n effects s, Reached step e race m₀ s₀ n effects
        (runFrom step e race moves m₀ s₀).moment s ∧ bound < (requestsOf effects).length := by
  refine ⟨left s₀ + (most + 1) * bound + 1, ?_⟩
  have hends : Ends step e race m₀ s₀ _ (runFrom step e race _ m₀ s₀) :=
    runFrom_ends (left s₀ + (most + 1) * bound + 1) m₀ s₀
  generalize runFrom step e race _ m₀ s₀ = r at hends
  cases hends with
  | @unfinished effects m s h =>
    have hle := hbusy.moves_le h
    refine .inr ⟨_, effects, s, h, Nat.lt_of_not_le fun hfew => ?_⟩
    have := Nat.mul_le_mul_left (most + 1) hfew
    omega
  | settled | lost | stuck => exact .inl nofun

/-- **A busy machine is over in the end** if it makes finitely many
requests. -/
theorem Busy.finishes (hbusy : Busy step left most) {bound : Nat}
    (hbound : ∀ n effects m s, Reached step e race m₀ s₀ n effects m s →
      (requestsOf effects).length ≤ bound) : Finishes step e race m₀ s₀ := by
  obtain ⟨moves, hover | ⟨n, effects, s, h, hmany⟩⟩ := hbusy.over_or_exceeds bound
  · exact ⟨moves, hover⟩
  · exact absurd (hbound _ _ _ _ h) (Nat.not_le.2 hmany)

/-- **And gets to an instant** if it makes finitely many before. -/
theorem Busy.passes (hbusy : Busy step left most) {b : Instant} (bound : Nat)
    (hbound : ∀ n effects m s, Reached step e race m₀ s₀ n effects m s → m.now < b →
      (requestsOf effects).length ≤ bound) : Passes step e race b m₀ s₀ := by
  obtain ⟨moves, hover | ⟨n, effects, s, h, hmany⟩⟩ := hbusy.over_or_exceeds bound
  · exact ⟨moves, .inl hover⟩
  · refine ⟨moves, .inr (Nat.not_lt.1 fun hbefore => ?_)⟩
    exact Nat.not_le.2 hmany (hbound _ _ _ _ h hbefore)

/-- **And it settles** if every wait of it ends. -/
theorem Busy.exists_settled (hbusy : Busy step left most) {bound : Nat}
    (hbound : ∀ n effects m s, Reached step e .free m₀ s₀ n effects m s →
      (requestsOf effects).length ≤ bound)
    (hends : ∀ n effects m s turn, Reached step e .free m₀ s₀ n effects m s →
      e.turnAt step m s = .ok turn → turn.resume.isSome) :
    ∃ n effects m s result, Reached step e .free m₀ s₀ n effects m s ∧
      e.turnAt step m s = .error result := by
  obtain ⟨moves, hover⟩ := hbusy.finishes hbound
  have hover' : Ends step e .free m₀ s₀ moves (runFrom step e .free moves m₀ s₀) :=
    runFrom_ends moves m₀ s₀
  generalize runFrom step e .free moves m₀ s₀ = r at hover hover'
  cases hover' with
  | unfinished => exact absurd rfl hover
  | settled h _ hturn => exact ⟨_, _, _, _, _, h, hturn⟩
  | lost _ _ _ hbeats => simp at hbeats
  | stuck h _ hturn _ hresume =>
    have hresumes := hends _ _ _ _ _ h hturn
    rw [hresume] at hresumes
    cases hresumes

end Task

end Amanuensis
