import Amanuensis.Proofs.Task.Calm
/-!
# What runs carry over

Runs that follow one another on one clock share two things: the service, which
has counted what was asked before, and the caller's signal. A run is the same
whatever was asked before if the service goes on from there (`runFrom_having`).
And it leaves the signal as it is unless somebody acts on it in its course
(`runFrom_stop`): a listener, the service, or the task itself by a move of its
own. Coming to an end, in whichever way, is none of these.
-/


namespace Amanuensis

namespace Client

/-- The requests of two tallies together. -/
def Tally.add (t u : Tally) : Tally :=
  ⟨t.creations + u.creations, t.statuses + u.statuses, t.generations + u.generations⟩

theorem Tally.add_count (t u : Tally) (q : Request) : t.add (u.count q) = (t.add u).count q := by
  cases q <;> rfl

/-- The service as it goes on once so much has been asked of it. -/
def after (client : Client) (asked : Tally) : Client :=
  ⟨fun tally q => client.reply (asked.add tally) q⟩

/-- A service that does not care what was asked before goes on as it was. -/
theorem after_eq_self {client : Client}
    (h : ∀ tally tally' q, client.reply tally q = client.reply tally' q) (asked : Tally) :
    client.after asked = client := by
  obtain ⟨reply⟩ := client
  exact congrArg Client.mk (funext fun tally => funext fun q => h _ _ q)

end Client

namespace Task

variable {σ ε ρ : Type}

/-! ## The service -/

/-- The same moment if so much has been asked before besides. -/
def Moment.having (m : Moment) (asked : Client.Tally) : Moment :=
  { m with tally := asked.add m.tally }

/-- The same setting with the service as it goes on. -/
def Setting.after (e : Setting ε) (asked : Client.Tally) : Setting ε :=
  { e with client := e.client.after asked }

def Turn.having (turn : Turn σ ε) (asked : Client.Tally) : Turn σ ε :=
  { turn with moment := turn.moment.having asked }

def Record.having (r : Record ε ρ) (asked : Client.Tally) : Record ε ρ :=
  { r with moment := r.moment.having asked }

variable {e : Setting ε} {m : Moment} {asked : Client.Tally}

theorem Setting.told_having (event : ε) :
    e.told (m.having asked) event = ((e.after asked).told m event).having asked := by
  obtain ⟨client, signalled, listener⟩ := e
  cases listener with
  | none => rfl
  | some cancels =>
    have hheard : (m.having asked).heard = m.heard := rfl
    simp only [Setting.told, Setting.after, hheard]
    cases cancels m.heard event <;> rfl

theorem Setting.sent_having (q : Client.Request) :
    e.sent (m.having asked) q = ((e.after asked).sent m q).having asked := by
  have hcount : ∀ stop, (⟨m.now, stop, (asked.add m.tally).count q, m.heard⟩ : Moment) =
      ⟨m.now, stop, asked.add (m.tally.count q), m.heard⟩ := fun stop => by
    rw [Client.Tally.add_count]
  have hreply : (e.after asked).client.reply m.tally q =
      e.client.reply (m.having asked).tally q := rfl
  simp only [Setting.sent, hreply]
  cases (e.client.reply (m.having asked).tally q).cancels <;> exact hcount _

/-- A turn is the same, whatever was asked before. -/
theorem turn_having (move : Move σ ε ρ) :
    e.turn (m.having asked) move = ((e.after asked).turn m move).map (·.having asked) := by
  cases move with
  | settle result => rfl
  | report event next =>
    rw [turn_report, turn_report, Setting.told_having]
    rfl
  | cancel next => rfl
  | wait span heeds next => rfl
  | ask q heeds next =>
    cases hgiven : heeds && m.cancelled e.signalled with
    | true =>
      have hgiven' : (heeds && (m.having asked).cancelled e.signalled) = true := hgiven
      have hgiven'' : (heeds && m.cancelled (e.after asked).signalled) = true := hgiven
      simp only [Setting.turn, hgiven', hgiven'']
      rfl
    | false =>
      rw [turn_ask (m := m.having asked) hgiven, turn_ask (e := e.after asked) hgiven]
      rw [Setting.sent_having]
      rfl

/-- **A run is the same**, whatever was asked before. -/
theorem runFrom_having (step : Instant → Bool → σ → Move σ ε ρ) (race : Race) (moves : Nat)
    (m : Moment) (s : σ) :
    runFrom step e race moves (m.having asked) s =
      (runFrom step (e.after asked) race moves m s).having asked := by
  induction moves generalizing m s with
  | zero => rfl
  | succ moves ih =>
    have hturn : e.turn (m.having asked) (step m.now (m.cancelled e.signalled) s) =
        ((e.after asked).turn m (step m.now (m.cancelled e.signalled) s)).map (·.having asked) :=
      turn_having _
    cases hmove : (e.after asked).turn m (step m.now (m.cancelled e.signalled) s) with
    | error result =>
      rw [hmove] at hturn
      rw [runFrom_of_error moves hturn]
      rw [runFrom_of_error moves hmove]
      rfl
    | ok turn =>
      rw [hmove] at hturn
      have hbeats : race.beats e.signalled (turn.having asked) = race.beats e.signalled turn := rfl
      cases hlost : race.beats e.signalled turn with
      | some w =>
        rw [runFrom_of_beats moves hturn (hbeats.trans hlost), runFrom_of_beats moves hmove hlost]
        rfl
      | none =>
        cases hresume : turn.resume with
        | none =>
          rw [runFrom_of_stuck moves hturn (hbeats.trans hlost) hresume,
            runFrom_of_stuck moves hmove hlost hresume]
          rfl
        | some w =>
          rw [runFrom_of_resume moves hturn (hbeats.trans hlost) hresume,
            runFrom_of_resume moves hmove hlost hresume]
          exact congrArg (Record.after turn.effects) (ih (turn.moment.goto w.1) w.2)

/-! ## The signal -/

/-- Somebody cancels the caller's signal at a move. -/
inductive Acts (e : Setting ε) (m : Moment) : Move σ ε ρ → Prop
  /-- The listener, when it is told the event. -/
  | listener {event : ε} {next : σ} {cancels : Nat → ε → Bool} : e.listener = some cancels →
      cancels m.heard event = true → Acts e m (.report event next)
  /-- The task. -/
  | task {next : σ} : Acts e m (.cancel next)
  /-- Whoever does while the request arrives at the service. -/
  | service {q : Client.Request} {heeds : Bool}
      {next : Option (Except Client.Error q.Answer) → σ} :
      (e.client.reply m.tally q).cancels = true → Acts e m (.ask q heeds next)

/-- A turn at which nobody does leaves it as it is. -/
theorem turn_stop_eq {move : Move σ ε ρ} {turn : Turn σ ε} (hturn : e.turn m move = .ok turn)
    (h : ¬ Acts e m move) : turn.moment.stop = m.stop := by
  cases move with
  | settle result => cases hturn
  | report event next =>
    rw [turn_report] at hturn
    cases hturn
    simp only [Setting.told]
    split
    · rfl
    · split
      · exact absurd (.listener ‹_› ‹_›) h
      · rfl
  | cancel next => exact absurd .task h
  | wait span heeds next =>
    cases hturn
    rfl
  | ask q heeds next =>
    simp only [Setting.turn] at hturn
    split at hturn <;> cases hturn
    · rfl
    · simp only
      split
      · exact absurd (.service ‹_›) h
      · rfl

variable {step : Instant → Bool → σ → Move σ ε ρ} {race : Race} {m₀ : Moment} {s₀ s : σ}
variable {n : Nat} {effects : List (Effect ε)}

/-- Somebody cancels the caller's signal at one of the first moves of a run. -/
def ActedWithin (step : Instant → Bool → σ → Move σ ε ρ) (e : Setting ε) (race : Race)
    (m₀ : Moment) (s₀ : σ) (moves : Nat) : Prop :=
  ∃ n < moves, ∃ effects m s, Reached step e race m₀ s₀ n effects m s ∧
    Acts e m (step m.now (m.cancelled e.signalled) s)

theorem ActedWithin.mono {moves more : Nat} (h : ActedWithin step e race m₀ s₀ moves)
    (hle : moves ≤ more) : ActedWithin step e race m₀ s₀ more := by
  obtain ⟨n, hlt, hacts⟩ := h
  exact ⟨n, Nat.lt_of_lt_of_le hlt hle, hacts⟩

/-- What a turn leaves of the signal at a place that a run gets to. -/
theorem Reached.turn_stop (h : Reached step e race m₀ s₀ n effects m s)
    (hstop : m.stop = m₀.stop ∨ ActedWithin step e race m₀ s₀ n) {turn : Turn σ ε}
    (hturn : e.turnAt step m s = .ok turn) :
    turn.moment.stop = m₀.stop ∨ ActedWithin step e race m₀ s₀ (n + 1) := by
  by_cases hacts : Acts e m (step m.now (m.cancelled e.signalled) s)
  · exact .inr ⟨n, Nat.lt_succ_self n, effects, m, s, h, hacts⟩
  · obtain hsame | hacted := hstop
    · exact .inl ((turn_stop_eq hturn hacts).trans hsame)
    · exact .inr (hacted.mono (Nat.le_succ n))

/-- The signal is what it was at the start at every place that a run gets to,
unless somebody has cancelled it. -/
theorem Reached.stop_eq (h : Reached step e race m₀ s₀ n effects m s) :
    m.stop = m₀.stop ∨ ActedWithin step e race m₀ s₀ n := by
  induction h with
  | start => exact .inl rfl
  | move h hturn _ _ ih => exact h.turn_stop ih hturn

/-- **A run leaves the signal as it is** unless somebody cancels it in its
course, however it ends. -/
theorem runFrom_stop (moves : Nat) :
    (runFrom step e race moves m₀ s₀).moment.stop = m₀.stop ∨
      ActedWithin step e race m₀ s₀ moves := by
  have hends : Ends step e race m₀ s₀ moves (runFrom step e race moves m₀ s₀) :=
    runFrom_ends moves m₀ s₀
  generalize runFrom step e race moves m₀ s₀ = r at hends ⊢
  cases hends with
  | unfinished h => exact h.stop_eq
  | settled h hlt => exact h.stop_eq.imp_right (·.mono (Nat.le_of_lt hlt))
  | lost h hlt hturn => exact (h.turn_stop h.stop_eq hturn).imp_right (·.mono hlt)
  | stuck h hlt hturn => exact (h.turn_stop h.stop_eq hturn).imp_right (·.mono hlt)

end Task

end Amanuensis
