import Amanuensis.Task.Moment
/-!
# Runs

How a task runs in a setting. `Setting.turn` makes one move: what it does
at once is recorded, and what remains is the instant and the state from
which the task goes on. A run may be raced against the caller's signal and
a deadline: whichever comes first ends it, and the task is left where it
waits. `Task.run` makes moves until the run is over.
-/


namespace Amanuensis

namespace Task

/-- Something that a run does and that others notice. -/
inductive Effect (ε : Type) where
  | asked (request : Client.Request) (time : Instant)
  | reported (event : ε) (time : Instant)
deriving DecidableEq, Repr

/-- A move that has been made. -/
structure Turn (σ ε : Type) where
  /-- What was done at once. -/
  effects : List (Effect ε)
  /-- Where the run stands after that. -/
  moment : Moment
  /-- When and from which state the task goes on; never if there is none. -/
  resume : Option (Instant × σ)

/-- Makes a move that does not settle the task. -/
def Setting.turn {σ ε ρ : Type} (e : Setting ε) (m : Moment) : Move σ ε ρ → Except ρ (Turn σ ε)
  | .settle r => .error r
  | .report event next =>
    match e.listener with
    | none => .ok ⟨[], m, some (m.now, next)⟩
    | some cancels =>
      let heard := { m with heard := m.heard + 1 }
      .ok ⟨[.reported event m.now], if cancels m.heard event then heard.cancel else heard,
        some (m.now, next)⟩
  | .cancel next => .ok ⟨[], m.cancel, some (m.now, next)⟩
  | .wait span heeds next =>
    .ok ⟨[], m, (m.await e.signalled (span.map m.after) heeds).map
      fun w => (w.1, next w.2)⟩
  | .ask q heeds next =>
    if heeds && m.cancelled e.signalled then .ok ⟨[], m, some (m.now, next none)⟩
    else
      let reply := e.client.reply m.tally q
      let asked := { m with tally := m.tally.count q }
      let asked := if reply.cancels then asked.cancel else asked
      .ok ⟨[.asked q m.now], asked, (asked.reception e.signalled heeds reply).map
        fun a => (a.1, next a.2)⟩

/-! ## Races -/

/-- What ends a task that has not settled. -/
inductive Rival where
  | signal
  | deadline
deriving DecidableEq, Repr

/-- What a task runs against. -/
inductive Race where
  /-- Nothing. -/
  | free
  /-- The caller's signal, and a deadline if there is one. -/
  | against (deadline : Option Instant)
deriving DecidableEq, Repr

/-- The first rival and its instant. -/
def Race.first (race : Race) (m : Moment) (signalled : Bool) : Option (Instant × Rival) :=
  match race with
  | .free => none
  | .against deadline =>
    match m.await signalled deadline true with
    | some (t, .cancelled) => some (t, .signal)
    | some (t, .elapsed) => some (t, .deadline)
    | none => none

/-- The rival that wins over a task that would go on at some instant. -/
def Race.lost (race : Race) (m : Moment) (signalled : Bool) (due : Option Instant) :
    Option (Instant × Rival) :=
  match race.first m signalled, due with
  | some (t, rival), some d => if t ≤ d then some (t, rival) else none
  | first, none => first
  | none, some _ => none

/-- The rival that wins over a task after a turn. A task that does not
wait cannot lose. -/
def Race.beats {σ ε : Type} (race : Race) (signalled : Bool) (t : Turn σ ε) :
    Option (Instant × Rival) :=
  let due := t.resume.map (·.1)
  if due = some t.moment.now then none else race.lost t.moment signalled due

/-! ## Whole runs -/

/-- How a run is over. -/
inductive Outcome (ρ : Type) where
  | settled (result : ρ)
  | lost (rival : Rival)
  /-- The task waits for something that never comes. -/
  | stuck
  /-- The moves that were allowed have been made. -/
  | unfinished
deriving DecidableEq, Repr

/-- What a run was. -/
structure Record (ε ρ : Type) where
  effects : List (Effect ε)
  outcome : Outcome ρ
  /-- Where the run stood when it was over. -/
  moment : Moment

/-- The record of a run that began with some effects. -/
def Record.after {ε ρ : Type} (effects : List (Effect ε)) (r : Record ε ρ) : Record ε ρ :=
  { r with effects := effects ++ r.effects }

/-- Runs a machine from a state, for a number of moves at most. -/
def runFrom {σ ε ρ : Type} (step : Instant → Bool → σ → Move σ ε ρ) (e : Setting ε) (race : Race) :
    (moves : Nat) → Moment → σ → Record ε ρ
  | 0, m, _ => ⟨[], .unfinished, m⟩
  | moves + 1, m, s =>
    match e.turn m (step m.now (m.cancelled e.signalled) s) with
    | .error result => ⟨[], .settled result, m⟩
    | .ok turn =>
      match race.beats e.signalled turn, turn.resume with
      | some (t, rival), _ => ⟨turn.effects, .lost rival, turn.moment.goto t⟩
      | none, none => ⟨turn.effects, .stuck, turn.moment⟩
      | none, some (t, next) =>
        (runFrom step e race moves (turn.moment.goto t) next).after turn.effects

end Task

/-- Runs a task, for a number of moves at most. -/
def Task.run {σ ε ρ : Type} (task : Task σ ε ρ) (e : Task.Setting ε) (race : Task.Race)
    (moves : Nat) (m : Task.Moment) : Task.Record ε ρ :=
  Task.runFrom task.step e race moves m task.start

end Amanuensis
