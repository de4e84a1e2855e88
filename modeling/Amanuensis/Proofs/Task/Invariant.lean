import Amanuensis.Proofs.Task.Interruption
import Amanuensis.Proofs.Task.Pace
/-!
# Invariants of machines

A machine keeps to something if every state that it goes on in, every
request that it makes and every result that it settles with is of some kind,
as long as its states so far were. That is a property of single moves
(`Keeping`). Whoever cancels the signal, whatever is answered and whatever a
run is raced against, it then holds of the whole run (`Keeping.run`).
-/


namespace Amanuensis

namespace Task

variable {σ τ ε δ ρ π : Type}

/-- A move that leads to states of some kind only, makes a request of some
kind, or settles with a result of some kind. -/
def Move.Keeps (state : σ → Prop) (request : Client.Request → Prop) (result : ρ → Prop) :
    Move σ ε ρ → Prop
  | .settle r => result r
  | .report _ next => state next
  | .cancel next => state next
  | .wait _ _ next => ∀ how, state (next how)
  | .ask q _ next => request q ∧ ∀ answer, state (next answer)

/-- A machine whose moves from states of some kind are all of that kind. -/
def Keeping (step : Instant → Bool → σ → Move σ ε ρ) (state : σ → Prop)
    (request : Client.Request → Prop) (result : ρ → Prop) : Prop :=
  ∀ now cancelled s, state s → (step now cancelled s).Keeps state request result

variable {state : σ → Prop} {request : Client.Request → Prop} {result : ρ → Prop}

/-- A move that is placed inside another machine keeps to what it kept to. -/
theorem Move.Keeps.map {move : Move σ ε ρ} {place : σ → τ} {event : ε → δ} {answer : ρ → π}
    {state' : τ → Prop} {request' : Client.Request → Prop} {result' : π → Prop}
    (h : move.Keeps state request result) (hstate : ∀ s, state s → state' (place s))
    (hrequest : ∀ q, request q → request' q) (hresult : ∀ r, result r → result' (answer r)) :
    (move.map place event answer).Keeps state' request' result' := by
  cases move with
  | settle r => exact hresult r h
  | report event next => exact hstate next h
  | cancel next => exact hstate next h
  | wait span heeds next => exact fun how => hstate _ (h how)
  | ask q heeds next => exact ⟨hrequest q h.1, fun answer => hstate _ (h.2 answer)⟩

theorem Move.map_id (move : Move σ ε ρ) : move.map id id id = move := by
  cases move <;> rfl

/-- A move keeps to anything wider. -/
theorem Move.Keeps.mono {move : Move σ ε ρ} {state' : σ → Prop} {request' : Client.Request → Prop}
    {result' : ρ → Prop} (h : move.Keeps state request result) (hstate : ∀ s, state s → state' s)
    (hrequest : ∀ q, request q → request' q) (hresult : ∀ r, result r → result' r) :
    move.Keeps state' request' result' := by
  have hmap : (move.map id id id).Keeps state' request' result' := h.map hstate hrequest hresult
  rwa [Move.map_id] at hmap

variable {e : Setting ε} {race : Race} {step : Instant → Bool → σ → Move σ ε ρ}
variable {m m₀ : Moment} {s s₀ : σ} {n : Nat} {effects : List (Effect ε)} {turn : Turn σ ε}

/-- **What a turn keeps to.** -/
theorem turn_keeps {move : Move σ ε ρ} (h : move.Keeps state request result)
    (hturn : e.turn m move = .ok turn) :
    (∀ w, turn.resume = some w → state w.2) ∧ ∀ q t, .asked q t ∈ turn.effects → request q := by
  cases move with
  | settle r => cases hturn
  | report event next =>
    rw [turn_report] at hturn
    cases hturn
    refine ⟨?_, fun q t hq => ?_⟩
    · rintro w ⟨⟩
      exact h
    · unfold Setting.heard at hq
      split at hq <;> simp at hq
  | cancel next =>
    cases hturn
    refine ⟨?_, by simp⟩
    rintro w ⟨⟩
    exact h
  | wait span heeds next =>
    cases hturn
    refine ⟨fun w hw => ?_, by simp⟩
    obtain ⟨v, -, rfl⟩ := Option.map_eq_some_iff.1 hw
    exact h v.2
  | ask q heeds next =>
    simp only [Setting.turn] at hturn
    split at hturn <;> cases hturn
    · -- given up before it is sent
      refine ⟨?_, by simp⟩
      rintro w ⟨⟩
      exact h.2 none
    · refine ⟨fun w hw => ?_, fun q' t hq => ?_⟩
      · obtain ⟨v, -, rfl⟩ := Option.map_eq_some_iff.1 hw
        exact h.2 v.2
      · cases List.mem_singleton.1 hq
        exact h.1

/-- The states at the places of a run are of the kind that its machine keeps
to. -/
theorem Keeping.reached (hkeeps : Keeping step state request result) (hs : state s₀)
    (h : Reached step e race m₀ s₀ n effects m s) : state s := by
  induction h with
  | start => exact hs
  | move _ hturn _ hresume ih => exact (turn_keeps (hkeeps _ _ _ ih) hturn).1 _ hresume

/-- **And so are all its requests and the result that it settles with.** -/
theorem Keeping.run (hkeeps : Keeping step state request result) (hs : state s₀) (moves : Nat) :
    (∀ q t, .asked q t ∈ (runFrom step e race moves m₀ s₀).effects → request q) ∧
      ∀ r, (runFrom step e race moves m₀ s₀).outcome = .settled r → result r := by
  constructor
  · intro q t hq
    obtain ⟨before, after, heffects⟩ := List.append_of_mem hq
    obtain ⟨n, m, s, turn, h, hturn, hone⟩ := exists_turn_of_runFrom heffects
    refine (turn_keeps (hkeeps _ _ _ (hkeeps.reached hs h)) hturn).2 q t ?_
    rw [hone]
    exact List.mem_singleton_self _
  · intro r hr
    have hends : Ends step e race m₀ s₀ moves (runFrom step e race moves m₀ s₀) :=
      runFrom_ends moves m₀ s₀
    generalize runFrom step e race moves m₀ s₀ = record at hr hends
    cases hends with
    | unfinished => cases hr
    | @settled n effects m s settled h _ hturn =>
      cases hr
      have hkept := hkeeps m.now (m.cancelled e.signalled) s (hkeeps.reached hs h)
      rwa [turn_eq_error hturn] at hkept
    | lost => cases hr
    | stuck => cases hr

/-- A run is over in the end if it is so from every state that its next move
keeps to. -/
theorem finishes_of_keeps (state : σ → Prop)
    (h : ∀ cancelled, (step m.now cancelled s).Keeps state (fun _ => True) fun _ => True)
    (hstate : ∀ m s, state s → Finishes step e race m s) : Finishes step e race m s :=
  finishes_of_turn fun _ _ _ hturn hresume =>
    hstate _ _ ((turn_keeps (h _) hturn).1 _ hresume)

/-- It gets to an instant if it does so from all of them. -/
theorem passes_of_keeps {b : Instant} (state : σ → Prop)
    (h : ∀ cancelled, (step m.now cancelled s).Keeps state (fun _ => True) fun _ => True)
    (hstate : ∀ m s, state s → Passes step e race b m s) : Passes step e race b m s :=
  passes_of_turn fun _ _ _ hturn hresume =>
    hstate _ _ ((turn_keeps (h _) hturn).1 _ hresume)

/-- A run that settles at once is over. -/
theorem finishes_of_settle (h : ∀ cancelled, ∃ r, step m.now cancelled s = .settle r) :
    Finishes step e race m s := by
  refine finishes_of_keeps (fun _ => False) (fun cancelled => ?_) fun _ _ h => h.elim
  obtain ⟨r, hr⟩ := h cancelled
  rw [hr]
  trivial

end Task

end Amanuensis
