import Amanuensis.Proofs.Task.Clock
/-!
# Runs without cancellation

A setting is calm at a moment if the task never sees its signal cancelled
from then on: either it has been given none, or nothing has cancelled it and
nothing in the setting will. In a calm setting a wait ends when it is due
and a request is answered as the service answers it, whether or not they
heed the signal; `Calm.turn_wait` and `Calm.turn_ask` are these turns, and
calm lasts as long as the machine does not cancel the signal itself.
-/


namespace Amanuensis

/-- How long a reply takes and what it answers, if nobody cancels it. -/
def Client.Reply.told {α : Type} (r : Client.Reply α) : Option (Nat × Except Client.Error α) :=
  match r.delay, r.ending with
  | some delay, some answer => some (delay, answer)
  | _, _ => none

namespace Task

variable {σ ε ρ : Type}

/-- Nothing in a setting cancels the caller's signal: no reply of the
service, and no listener at any event. -/
structure Setting.Quiet (e : Setting ε) : Prop where
  client : ∀ tally q, (e.client.reply tally q).cancels = false
  listener : ∀ cancels, e.listener = some cancels → ∀ n event, cancels n event = false

/-- The task never sees its signal cancelled from a moment on. -/
def Setting.Calm (e : Setting ε) (m : Moment) : Prop :=
  e.signalled = true → e.Quiet ∧ m.stop = none

/-- The moment after a request has been sent. -/
def Setting.sent (e : Setting ε) (m : Moment) (q : Client.Request) : Moment :=
  if (e.client.reply m.tally q).cancels then { m with tally := m.tally.count q }.cancel
  else { m with tally := m.tally.count q }

/-- The effect that an event has: none if nobody listens. -/
def Setting.heard (e : Setting ε) (event : ε) (t : Instant) : List (Effect ε) :=
  if e.listener.isSome then [.reported event t] else []

/-- The moment after an event has been reported. -/
def Setting.told (e : Setting ε) (m : Moment) (event : ε) : Moment :=
  match e.listener with
  | none => m
  | some cancels =>
    if cancels m.heard event then { m with heard := m.heard + 1 }.cancel
    else { m with heard := m.heard + 1 }

variable {e : Setting ε} {m : Moment}

@[simp] theorem Setting.sent_now (q : Client.Request) : (e.sent m q).now = m.now := by
  unfold Setting.sent
  split <;> rfl

@[simp] theorem Setting.sent_tally (q : Client.Request) :
    (e.sent m q).tally = m.tally.count q := by
  unfold Setting.sent
  split <;> rfl

@[simp] theorem Setting.told_now (event : ε) : (e.told m event).now = m.now := by
  unfold Setting.told
  split
  · rfl
  · split <;> rfl

@[simp] theorem Setting.told_tally (event : ε) : (e.told m event).tally = m.tally := by
  unfold Setting.told
  split
  · rfl
  · split <;> rfl

@[simp] theorem requestsOf_heard (event : ε) (t : Instant) :
    requestsOf (e.heard event t) = [] := by
  unfold Setting.heard
  split <;> rfl

/-- A report takes no time, whoever listens. -/
theorem turn_report (event : ε) (next : σ) :
    e.turn m (.report event next : Move σ ε ρ) =
      .ok ⟨e.heard event m.now, e.told m event, some (m.now, next)⟩ := by
  cases hl : e.listener <;> simp [Setting.turn, Setting.heard, Setting.told, hl]

/-- A request that is sent ends with what is received of it. -/
theorem turn_ask {q : Client.Request} {heeds : Bool}
    (h : (heeds && m.cancelled e.signalled) = false)
    (next : Option (Except Client.Error q.Answer) → σ) :
    e.turn m (.ask q heeds next : Move σ ε ρ) =
      .ok ⟨[.asked q m.now], e.sent m q,
        ((e.sent m q).reception e.signalled heeds (e.client.reply m.tally q)).map
          fun a => (a.1, next a.2)⟩ := by
  simp only [Setting.turn, h]
  rfl

/-! ## Calm settings -/

namespace Setting.Calm

theorem seen (h : e.Calm m) : m.seen e.signalled = none := by
  cases hs : e.signalled with
  | false => rfl
  | true => exact (h hs).2

theorem cancelled (h : e.Calm m) : m.cancelled e.signalled = false := by
  simp only [Moment.cancelled, h.seen]

/-- A wait ends when it is due. -/
theorem await (h : e.Calm m) (due : Option Instant) (heeds : Bool) :
    m.await e.signalled due heeds = due.map fun d => (d, .elapsed) := by
  simp only [Moment.await, h.seen, ite_self]
  cases due <;> rfl

/-- A request is answered by what the reply tells. -/
theorem reception {α : Type} (h : e.Calm m) (heeds : Bool) (r : Client.Reply α) :
    m.reception e.signalled heeds r = r.told.map fun w => (due m.now w.1, some w.2) := by
  have hanswer : m.answer e.signalled r = r.told.map fun w => (due m.now w.1, w.2) := by
    simp only [Moment.answer, h.await, h.seen, Client.Reply.told]
    cases r.delay with
    | none => rfl
    | some delay => cases r.ending <;> rfl
  simp only [Moment.reception, hanswer, h.await]
  cases r.told with
  | none => rfl
  | some w =>
    simp only [Option.map_some]
    split <;> rfl

theorem goto (h : e.Calm m) (t : Instant) : e.Calm (m.goto t) := h

theorem sent (h : e.Calm m) (q : Client.Request) : e.Calm (e.sent m q) := by
  intro hs
  obtain ⟨hquiet, hstop⟩ := h hs
  refine ⟨hquiet, ?_⟩
  rw [Setting.sent, hquiet.client]
  exact hstop

theorem told (h : e.Calm m) (event : ε) : e.Calm (e.told m event) := by
  intro hs
  obtain ⟨hquiet, hstop⟩ := h hs
  refine ⟨hquiet, ?_⟩
  unfold Setting.told
  split
  · exact hstop
  · rename_i cancels hl
    rw [hquiet.listener cancels hl]
    exact hstop

/-- Only the task's own moves could end the calm. -/
theorem of_turn {move : Move σ ε ρ} {turn : Turn σ ε} (h : e.Calm m)
    (hmove : ∀ next, move ≠ .cancel next) (hturn : e.turn m move = .ok turn) :
    e.Calm turn.moment := by
  cases move with
  | settle result => cases hturn
  | report event next =>
    rw [turn_report] at hturn
    cases hturn
    exact h.told event
  | cancel next => exact absurd rfl (hmove next)
  | wait span heeds next =>
    cases hturn
    exact h
  | ask q heeds next =>
    rw [turn_ask (by rw [h.cancelled, Bool.and_false])] at hturn
    cases hturn
    exact h.sent q

theorem turn_wait (h : e.Calm m) (span : Nat) (heeds : Bool) (next : Wake → σ) :
    e.turn m (.wait (some span) heeds next : Move σ ε ρ) =
      .ok ⟨[], m, some (due m.now span, next .elapsed)⟩ := by
  simp only [Setting.turn, h.await, Option.map_some]
  rfl

theorem turn_ask (h : e.Calm m) (q : Client.Request) (heeds : Bool)
    (next : Option (Except Client.Error q.Answer) → σ) :
    e.turn m (.ask q heeds next : Move σ ε ρ) =
      .ok ⟨[.asked q m.now], e.sent m q,
        (e.client.reply m.tally q).told.map fun w => (due m.now w.1, next (some w.2))⟩ := by
  rw [Task.turn_ask (by rw [h.cancelled, Bool.and_false]), (h.sent q).reception, Option.map_map,
    Setting.sent_now]
  rfl

end Setting.Calm

/-! ## Calm runs -/

/-- The machine leaves the caller's signal alone. -/
def NeverCancels (step : Instant → Bool → σ → Move σ ε ρ) : Prop :=
  ∀ now cancelled s next, step now cancelled s ≠ .cancel next

variable {step : Instant → Bool → σ → Move σ ε ρ} {race : Race}
variable {m₀ : Moment} {s₀ s : σ} {n : Nat} {effects : List (Effect ε)}

/-- **A run that begins in calm stays calm**, if its machine leaves the
signal alone. -/
theorem Reached.calm (hstep : NeverCancels step)
    (h : Reached step e race m₀ s₀ n effects m s) (hcalm : e.Calm m₀) : e.Calm m := by
  induction h with
  | start => exact hcalm
  | move _ hturn _ _ ih => exact (ih.of_turn (hstep _ _ _) hturn).goto _

/-- The turn at a place of a calm run. -/
theorem Setting.Calm.turnAt (h : e.Calm m) : e.turnAt step m s = e.turn m (step m.now false s) := by
  rw [Setting.turnAt, h.cancelled]

end Task

end Amanuensis
