import Amanuensis.Proofs.Task.Calm
/-!
# Machines inside machines

A task that hands over to a second machine places the moves of that machine
among its own, by `Move.map`, and may tell its events and its result in
other words. From then on its run is the run of the second machine: it does
the same at the same instants, and it is over in the same way, up to these
words (`runFrom_placed`).
-/


namespace Amanuensis

namespace Task

variable {σ τ ε δ ρ π : Type}

/-! ## Other words -/

/-- The same effect, its event told in other words. -/
def Effect.map (event : ε → δ) : Effect ε → Effect δ
  | .asked q t => .asked q t
  | .reported x t => .reported (event x) t

/-- The same outcome, its result told in other words. -/
def Outcome.map (result : ρ → π) : Outcome ρ → Outcome π
  | .settled r => .settled (result r)
  | .lost rival => .lost rival
  | .stuck => .stuck
  | .unfinished => .unfinished

/-- The same record in other words. -/
def Record.map (event : ε → δ) (result : ρ → π) (r : Record ε ρ) : Record δ π :=
  ⟨r.effects.map (.map event), r.outcome.map result, r.moment⟩

/-- The setting of a machine inside another one: whoever listens hears its
events in other words. -/
def Setting.inside (e : Setting δ) (event : ε → δ) : Setting ε :=
  ⟨e.client, e.signalled, e.listener.map fun cancels n x => cancels n (event x)⟩

/-- The turn of a machine that is placed inside another. -/
def Turn.placed (place : σ → τ) (event : ε → δ) (turn : Turn σ ε) : Turn τ δ :=
  ⟨turn.effects.map (.map event), turn.moment, turn.resume.map fun w => (w.1, place w.2)⟩

@[simp] theorem Effect.map_id : Effect.map (id : ε → ε) = id := by
  funext x
  cases x <;> rfl

@[simp] theorem Outcome.map_id (o : Outcome ρ) : o.map id = o := by
  cases o <;> rfl

@[simp] theorem Outcome.map_eq_unfinished {o : Outcome ρ} {result : ρ → π} :
    o.map result = .unfinished ↔ o = .unfinished := by
  cases o <;> simp [Outcome.map]

@[simp] theorem Record.map_id (r : Record ε ρ) : r.map id id = r := by
  simp [Record.map]

@[simp] theorem Setting.inside_id (e : Setting ε) : e.inside id = e := by
  obtain ⟨client, signalled, listener⟩ := e
  cases listener <;> rfl

theorem Record.map_after (event : ε → δ) (result : ρ → π) (effects : List (Effect ε))
    (r : Record ε ρ) :
    (r.after effects).map event result = (r.map event result).after (effects.map (.map event)) := by
  simp only [Record.map, Record.after, List.map_append]

/-- The events of effects in other words are the events in other words, -/
theorem reportsOf_map (event : ε → δ) (effects : List (Effect ε)) :
    reportsOf (effects.map (.map event)) =
      (reportsOf effects).map fun x => (event x.1, x.2) := by
  induction effects with
  | nil => rfl
  | cons effect effects ih =>
    cases effect with
    | asked q t => exact ih
    | reported x t => exact congrArg ((event x, t) :: ·) ih

/-- and their requests are the same. -/
theorem requestsOf_map (event : ε → δ) (effects : List (Effect ε)) :
    requestsOf (effects.map (.map event)) = requestsOf effects := by
  induction effects with
  | nil => rfl
  | cons effect effects ih =>
    cases effect with
    | asked q t => exact congrArg ((q, t) :: ·) ih
    | reported x t => exact ih

/-! ## Runs -/

variable {e : Setting δ} {race : Race} {place : σ → τ} {event : ε → δ} {result : ρ → π}

theorem Setting.heard_inside (x : ε) (t : Instant) :
    ((e.inside event).heard x t).map (.map event) = e.heard (event x) t := by
  unfold Setting.heard Setting.inside
  cases e.listener <;> rfl

theorem Setting.told_inside (m : Moment) (x : ε) :
    (e.inside event).told m x = e.told m (event x) := by
  unfold Setting.told Setting.inside
  cases e.listener <;> rfl

/-- Only a move that cancels the signal does so where it is placed. -/
theorem Move.map_ne_cancel {move : Move σ ε ρ} (h : ∀ next, move ≠ .cancel next) (next : τ) :
    move.map place event result ≠ .cancel next := by
  cases move with
  | cancel next => exact absurd rfl (h next)
  | settle | report | wait | ask => simp [Move.map]

/-- What leads to a state leads to its place. -/
theorem map_resume {α : Type} (place : σ → τ) (o : Option (Instant × α)) (next : α → σ) :
    o.map (fun w => (w.1, place (next w.2))) =
      (o.map fun w => (w.1, next w.2)).map fun w => (w.1, place w.2) := by
  rw [Option.map_map]
  rfl

/-- A move that is placed inside another machine has the turn that it had. -/
theorem turn_map (m : Moment) (move : Move σ ε ρ) :
    e.turn m (move.map place event result) =
      (((e.inside event).turn m move).map (Turn.placed place event)).mapError result := by
  cases move with
  | settle r => rfl
  | report x next =>
    rw [turn_report, Move.map, turn_report, ← Setting.heard_inside, ← Setting.told_inside]
    rfl
  | cancel next => rfl
  | wait span heeds next =>
    exact congrArg (fun resume => Except.ok (Turn.mk [] m resume)) (map_resume place _ next)
  | ask q heeds next =>
    cases hgiven : heeds && m.cancelled e.signalled with
    | true => simp only [Move.map, Setting.turn, Setting.inside, hgiven, if_true]; rfl
    | false =>
      have hinside : (heeds && m.cancelled (e.inside event).signalled) = false := hgiven
      rw [turn_ask hinside, Move.map, turn_ask hgiven]
      exact congrArg (fun resume => Except.ok (Turn.mk [.asked q m.now] (e.sent m q) resume))
        (map_resume place _ next)

/-- Where it stands is no reason to lose a race. -/
theorem Race.beats_placed (race : Race) (place : σ → τ) (event : ε → δ) (signalled : Bool)
    (turn : Turn σ ε) : race.beats signalled (turn.placed place event) =
      race.beats signalled turn := by
  simp only [Race.beats, Turn.placed, Option.map_map, Function.comp_def]

/-- **The run of a machine inside another is its own run.** -/
theorem runFrom_placed {inner : Instant → Bool → σ → Move σ ε ρ}
    {outer : Instant → Bool → τ → Move τ δ π}
    (h : ∀ now cancelled s, outer now cancelled (place s) =
      (inner now cancelled s).map place event result)
    (moves : Nat) (m : Moment) (s : σ) :
    runFrom outer e race moves m (place s) =
      (runFrom inner (e.inside event) race moves m s).map event result := by
  -- both runs make the same turn, and lose, are stuck or go on at its end alike
  induction moves generalizing m s with
  | zero => rfl
  | succ moves ih =>
    have hturn : e.turnAt outer m (place s) =
        (((e.inside event).turnAt inner m s).map (Turn.placed place event)).mapError result := by
      rw [Setting.turnAt, h, turn_map]
      rfl
    cases hinner : (e.inside event).turnAt inner m s with
    | error r =>
      rw [hinner] at hturn
      rw [runFrom_of_error moves hturn, runFrom_of_error moves hinner]
      rfl
    | ok turn =>
      rw [hinner] at hturn
      have hbeats : race.beats e.signalled (turn.placed place event) =
          race.beats (e.inside event).signalled turn := race.beats_placed _ _ _ turn
      cases hlost : race.beats (e.inside event).signalled turn with
      | some w =>
        rw [runFrom_of_beats moves hturn (hbeats.trans hlost), runFrom_of_beats moves hinner hlost]
        rfl
      | none =>
        cases hresume : turn.resume with
        | none =>
          have hplaced : (turn.placed place event).resume = none := by
            rw [Turn.placed, hresume]
            rfl
          rw [runFrom_of_stuck moves hturn (hbeats.trans hlost) hplaced,
            runFrom_of_stuck moves hinner hlost hresume]
          rfl
        | some w =>
          have hplaced : (turn.placed place event).resume = some (w.1, place w.2) := by
            rw [Turn.placed, hresume]
            rfl
          rw [runFrom_of_resume moves hturn (hbeats.trans hlost) hplaced,
            runFrom_of_resume moves hinner hlost hresume, Record.map_after]
          exact congrArg (Record.after _) (ih _ _)

end Task

end Amanuensis
