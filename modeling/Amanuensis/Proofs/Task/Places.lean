import Amanuensis.Task.Run
/-!
# The places of a run

A run goes from place to place, a place being where it stands and the state
of its machine. `Reached` says which places a run gets to, after how many
moves and with which effects, and `Ends` how the record of a run follows
from the last of them; `runFrom_eq_iff` says that these are the records of
`runFrom`, so that statements about runs are proved along `Reached`, move by
move, and never by recursion on the allowance of moves.
-/


namespace Amanuensis

namespace Task

variable {σ ε ρ : Type}

/-- The instant of an effect. -/
def Effect.time : Effect ε → Instant
  | .asked _ t => t
  | .reported _ t => t

/-- The requests among some effects. -/
def requestsOf (effects : List (Effect ε)) : List (Client.Request × Instant) :=
  effects.filterMap fun
    | .asked q t => some (q, t)
    | .reported _ _ => none

/-- The events among some effects. -/
def reportsOf (effects : List (Effect ε)) : List (ε × Instant) :=
  effects.filterMap fun
    | .asked _ _ => none
    | .reported event t => some (event, t)

@[simp] theorem requestsOf_nil : requestsOf ([] : List (Effect ε)) = [] := rfl

@[simp] theorem reportsOf_nil : reportsOf ([] : List (Effect ε)) = [] := rfl

@[simp] theorem requestsOf_append (xs ys : List (Effect ε)) :
    requestsOf (xs ++ ys) = requestsOf xs ++ requestsOf ys := List.filterMap_append

@[simp] theorem reportsOf_append (xs ys : List (Effect ε)) :
    reportsOf (xs ++ ys) = reportsOf xs ++ reportsOf ys := List.filterMap_append

@[simp] theorem requestsOf_asked (q : Client.Request) (t : Instant) :
    requestsOf [(.asked q t : Effect ε)] = [(q, t)] := rfl

@[simp] theorem requestsOf_reported (event : ε) (t : Instant) :
    requestsOf [.reported event t] = [] := rfl

@[simp] theorem reportsOf_asked (q : Client.Request) (t : Instant) :
    reportsOf [(.asked q t : Effect ε)] = [] := rfl

@[simp] theorem reportsOf_reported (event : ε) (t : Instant) :
    reportsOf [.reported event t] = [(event, t)] := rfl

@[simp] theorem Moment.goto_now (m : Moment) (t : Instant) : (m.goto t).now = t := rfl

@[simp] theorem Moment.goto_stop (m : Moment) (t : Instant) : (m.goto t).stop = m.stop := rfl

@[simp] theorem Moment.goto_tally (m : Moment) (t : Instant) : (m.goto t).tally = m.tally := rfl

@[simp] theorem Moment.goto_heard (m : Moment) (t : Instant) : (m.goto t).heard = m.heard := rfl

/-! ## Places -/

/-- The turn that a run makes at a place. -/
def Setting.turnAt (e : Setting ε) (step : Instant → Bool → σ → Move σ ε ρ) (m : Moment) (s : σ) :
    Except ρ (Turn σ ε) :=
  e.turn m (step m.now (m.cancelled e.signalled) s)

/-- The places that a run gets to, each with the number of moves and the
effects on the way. -/
inductive Reached (step : Instant → Bool → σ → Move σ ε ρ) (e : Setting ε) (race : Race)
    (m₀ : Moment) (s₀ : σ) : Nat → List (Effect ε) → Moment → σ → Prop
  | start : Reached step e race m₀ s₀ 0 [] m₀ s₀
  | move {n effects m s turn t next} : Reached step e race m₀ s₀ n effects m s →
      e.turnAt step m s = .ok turn → race.beats e.signalled turn = none →
      turn.resume = some (t, next) →
      Reached step e race m₀ s₀ (n + 1) (effects ++ turn.effects) (turn.moment.goto t) next

/-- How a run that is allowed some moves is over, at the last place that it
gets to. -/
inductive Ends (step : Instant → Bool → σ → Move σ ε ρ) (e : Setting ε) (race : Race)
    (m₀ : Moment) (s₀ : σ) (moves : Nat) : Record ε ρ → Prop
  | unfinished {effects m s} : Reached step e race m₀ s₀ moves effects m s →
      Ends step e race m₀ s₀ moves ⟨effects, .unfinished, m⟩
  | settled {n effects m s result} : Reached step e race m₀ s₀ n effects m s → n < moves →
      e.turnAt step m s = .error result →
      Ends step e race m₀ s₀ moves ⟨effects, .settled result, m⟩
  | lost {n effects m s turn t rival} : Reached step e race m₀ s₀ n effects m s → n < moves →
      e.turnAt step m s = .ok turn → race.beats e.signalled turn = some (t, rival) →
      Ends step e race m₀ s₀ moves ⟨effects ++ turn.effects, .lost rival, turn.moment.goto t⟩
  | stuck {n effects m s turn} : Reached step e race m₀ s₀ n effects m s → n < moves →
      e.turnAt step m s = .ok turn → race.beats e.signalled turn = none → turn.resume = none →
      Ends step e race m₀ s₀ moves ⟨effects ++ turn.effects, .stuck, turn.moment⟩

variable {step : Instant → Bool → σ → Move σ ε ρ} {e : Setting ε} {race : Race}
variable {m₀ m : Moment} {s₀ s : σ} {n : Nat} {effects : List (Effect ε)}

@[simp] theorem Record.after_nil (r : Record ε ρ) : r.after [] = r := rfl

@[simp] theorem Record.after_after (xs ys : List (Effect ε)) (r : Record ε ρ) :
    (r.after ys).after xs = r.after (xs ++ ys) := by
  simp [Record.after]

/-! One move of a run, read off the turn at its place. -/

theorem runFrom_of_error {result : ρ} (moves : Nat) (hturn : e.turnAt step m s = .error result) :
    runFrom step e race (moves + 1) m s = ⟨[], .settled result, m⟩ := by
  rw [Setting.turnAt] at hturn
  simp only [runFrom, hturn]

theorem runFrom_of_beats {turn : Turn σ ε} {t : Instant} {rival : Rival} (moves : Nat)
    (hturn : e.turnAt step m s = .ok turn)
    (hbeats : race.beats e.signalled turn = some (t, rival)) :
    runFrom step e race (moves + 1) m s = ⟨turn.effects, .lost rival, turn.moment.goto t⟩ := by
  rw [Setting.turnAt] at hturn
  simp only [runFrom, hturn, hbeats]

theorem runFrom_of_stuck {turn : Turn σ ε} (moves : Nat) (hturn : e.turnAt step m s = .ok turn)
    (hbeats : race.beats e.signalled turn = none) (hresume : turn.resume = none) :
    runFrom step e race (moves + 1) m s = ⟨turn.effects, .stuck, turn.moment⟩ := by
  rw [Setting.turnAt] at hturn
  simp only [runFrom, hturn, hbeats, hresume]

theorem runFrom_of_resume {turn : Turn σ ε} {t : Instant} {next : σ} (moves : Nat)
    (hturn : e.turnAt step m s = .ok turn) (hbeats : race.beats e.signalled turn = none)
    (hresume : turn.resume = some (t, next)) :
    runFrom step e race (moves + 1) m s =
      (runFrom step e race moves (turn.moment.goto t) next).after turn.effects := by
  rw [Setting.turnAt] at hturn
  simp only [runFrom, hturn, hbeats, hresume]

/-- A run goes on from a place that it reaches. -/
theorem Reached.runFrom_add (h : Reached step e race m₀ s₀ n effects m s) (moves : Nat) :
    runFrom step e race (n + moves) m₀ s₀ = (runFrom step e race moves m s).after effects := by
  induction h generalizing moves with
  | start => rw [Nat.zero_add, Record.after_nil]
  | move _ hturn hbeats hresume ih =>
    rw [Nat.add_right_comm, Nat.add_assoc, ih, runFrom_of_resume _ hturn hbeats hresume,
      Record.after_after]

/-- **Every record of a run ends the run at a place that it reaches.** -/
theorem runFrom_ends (moves : Nat) (m : Moment) (s : σ) :
    Ends step e race m s moves (runFrom step e race moves m s) := by
  suffices h : ∀ n effects m' s', Reached step e race m s n effects m' s' → ∀ left,
      n + left = moves →
        Ends step e race m s moves ((runFrom step e race left m' s').after effects) by
    simpa using h 0 [] m s .start moves (Nat.zero_add moves)
  intro n effects m' s' h left
  -- the allowance that is left shrinks while the place moves on
  induction left generalizing n effects m' s' with
  | zero =>
    intro hn
    obtain rfl : n = moves := hn
    simpa [runFrom, Record.after] using Ends.unfinished h
  | succ left ih =>
    intro hn
    have hlt : n < moves := by omega
    cases hturn : e.turnAt step m' s' with
    | error result =>
      rw [runFrom_of_error left hturn]
      simpa [Record.after] using Ends.settled h hlt hturn
    | ok turn =>
      cases hbeats : race.beats e.signalled turn with
      | some w =>
        rw [runFrom_of_beats left hturn hbeats]
        exact .lost h hlt hturn hbeats
      | none =>
        cases hresume : turn.resume with
        | none =>
          rw [runFrom_of_stuck left hturn hbeats hresume]
          exact .stuck h hlt hturn hbeats hresume
        | some w =>
          rw [runFrom_of_resume left hturn hbeats hresume, Record.after_after]
          exact ih (n + 1) _ _ _ (.move h hturn hbeats hresume) (by omega)

/-- Going on from a place with an allowance that is not used up yet. -/
theorem Reached.runFrom_of_lt (h : Reached step e race m₀ s₀ n effects m s) {moves : Nat}
    (hlt : n < moves) :
    runFrom step e race moves m₀ s₀ =
      (runFrom step e race (moves - n - 1 + 1) m s).after effects := by
  rw [← h.runFrom_add]
  congr 1
  omega

/-- And an end at such a place is the record of the run. -/
theorem Ends.runFrom_eq {moves : Nat} {r : Record ε ρ} (h : Ends step e race m₀ s₀ moves r) :
    runFrom step e race moves m₀ s₀ = r := by
  cases h with
  | unfinished h => simpa [runFrom, Record.after] using h.runFrom_add 0
  | settled h hlt hturn =>
    rw [h.runFrom_of_lt hlt, runFrom_of_error _ hturn]
    simp [Record.after]
  | lost h hlt hturn hbeats =>
    rw [h.runFrom_of_lt hlt, runFrom_of_beats _ hturn hbeats]
    rfl
  | stuck h hlt hturn hbeats hresume =>
    rw [h.runFrom_of_lt hlt, runFrom_of_stuck _ hturn hbeats hresume]
    rfl

/-- **The records of runs are the ends of runs.** -/
theorem runFrom_eq_iff {moves : Nat} {r : Record ε ρ} :
    runFrom step e race moves m₀ s₀ = r ↔ Ends step e race m₀ s₀ moves r :=
  ⟨fun h => h ▸ runFrom_ends moves m₀ s₀, Ends.runFrom_eq⟩

/-- More moves do not change the record of a run that is over. -/
theorem runFrom_eq_of_le {moves more : Nat} (hle : moves ≤ more)
    (h : (runFrom step e race moves m₀ s₀).outcome ≠ .unfinished) :
    runFrom step e race more m₀ s₀ = runFrom step e race moves m₀ s₀ := by
  rw [runFrom_eq_iff]
  have hends : Ends step e race m₀ s₀ moves (runFrom step e race moves m₀ s₀) :=
    runFrom_ends moves m₀ s₀
  generalize runFrom step e race moves m₀ s₀ = r at h hends
  cases hends with
  | unfinished => exact absurd rfl h
  | settled hr hlt hturn => exact .settled hr (by omega) hturn
  | lost hr hlt hturn hbeats => exact .lost hr (by omega) hturn hbeats
  | stuck hr hlt hturn hbeats hresume => exact .stuck hr (by omega) hturn hbeats hresume

/-- So a run is over in one way only. -/
theorem runFrom_eq_of_over {moves more : Nat}
    (h : (runFrom step e race moves m₀ s₀).outcome ≠ .unfinished)
    (h' : (runFrom step e race more m₀ s₀).outcome ≠ .unfinished) :
    runFrom step e race moves m₀ s₀ = runFrom step e race more m₀ s₀ :=
  (runFrom_eq_of_le (Nat.le_add_right moves more) h).symm.trans
    (runFrom_eq_of_le (Nat.le_add_left more moves) h')

/-- More moves only add effects. -/
theorem runFrom_effects_prefix {moves more : Nat} (hle : moves ≤ more) :
    (runFrom step e race moves m₀ s₀).effects <+: (runFrom step e race more m₀ s₀).effects := by
  by_cases h : (runFrom step e race moves m₀ s₀).outcome = .unfinished
  · have hends : Ends step e race m₀ s₀ moves (runFrom step e race moves m₀ s₀) :=
      runFrom_ends moves m₀ s₀
    generalize runFrom step e race moves m₀ s₀ = r at h hends
    cases hends with
    | unfinished hr =>
      have hadd := hr.runFrom_add (more - moves)
      rw [Nat.add_sub_cancel' hle] at hadd
      rw [hadd]
      exact List.prefix_append _ _
    | settled => cases h
    | lost => cases h
    | stuck => cases h
  · exact ⟨[], by rw [List.append_nil, runFrom_eq_of_le hle h]⟩

/-- What is done at a place stands in every run that goes beyond it. -/
theorem Reached.effects_prefix {turn : Turn σ ε} (h : Reached step e race m₀ s₀ n effects m s)
    (hturn : e.turnAt step m s = .ok turn) {moves : Nat} (hlt : n < moves) :
    effects ++ turn.effects <+: (runFrom step e race moves m₀ s₀).effects := by
  rw [h.runFrom_of_lt hlt]
  refine (List.prefix_append_right_inj effects).2 ?_
  cases hbeats : race.beats e.signalled turn with
  | some w =>
    exact ⟨[], by rw [List.append_nil, runFrom_of_beats _ hturn hbeats]⟩
  | none =>
    cases hresume : turn.resume with
    | none => exact ⟨[], by rw [List.append_nil, runFrom_of_stuck _ hturn hbeats hresume]⟩
    | some w =>
      rw [runFrom_of_resume _ hturn hbeats hresume]
      exact List.prefix_append _ _

/-- **A run settles where the turn at a place that it reaches does.** -/
theorem runFrom_settled_iff {result : ρ} :
    (∃ moves, runFrom step e race moves m₀ s₀ = ⟨effects, .settled result, m⟩) ↔
      ∃ n s, Reached step e race m₀ s₀ n effects m s ∧ e.turnAt step m s = .error result := by
  constructor
  · rintro ⟨moves, h⟩
    cases runFrom_eq_iff.1 h with
    | settled h hlt hturn => exact ⟨_, _, h, hturn⟩
  · rintro ⟨n, s, h, hturn⟩
    exact ⟨n + 1, runFrom_eq_iff.2 (.settled h (Nat.lt_succ_self n) hturn)⟩

/-- A place is reached after so many moves or it is not: there is no other. -/
theorem Reached.unique {effects' : List (Effect ε)} {m' : Moment} {s' : σ}
    (h : Reached step e race m₀ s₀ n effects m s)
    (h' : Reached step e race m₀ s₀ n effects' m' s') :
    effects = effects' ∧ m = m' ∧ s = s' := by
  induction h generalizing effects' m' s' with
  | start =>
    cases h'
    exact ⟨rfl, rfl, rfl⟩
  | move _ hturn _ hresume ih =>
    cases h' with
    | move h' hturn' _ hresume' =>
      obtain ⟨rfl, rfl, rfl⟩ := ih h'
      obtain rfl : _ = _ := Except.ok.inj (hturn.symm.trans hturn')
      obtain ⟨rfl, rfl⟩ := Prod.mk.inj (Option.some.inj (hresume.symm.trans hresume'))
      exact ⟨rfl, rfl, rfl⟩

/-! ## Races that nobody is in -/

@[simp] theorem Race.beats_free (signalled : Bool) (turn : Turn σ ε) :
    Race.free.beats signalled turn = none := by
  simp only [Race.beats, Race.lost, Race.first]
  cases turn.resume <;> simp

/-- A free run loses to nobody. -/
theorem Reached.free_move {turn : Turn σ ε} {t : Instant} {next : σ}
    (h : Reached step e .free m₀ s₀ n effects m s) (hturn : e.turnAt step m s = .ok turn)
    (hresume : turn.resume = some (t, next)) :
    Reached step e .free m₀ s₀ (n + 1) (effects ++ turn.effects) (turn.moment.goto t) next :=
  .move h hturn (Race.beats_free _ _) hresume

end Task

end Amanuensis
