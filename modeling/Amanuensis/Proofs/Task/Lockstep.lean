import Amanuensis.Proofs.Task.Signal
/-!
# Runs in step with themselves undisturbed

What would become of a task if nobody cancelled its signal? It is compared
here with itself in the same setting but for that: nobody has cancelled the
signal and nobody does (`Setting.undisturbed`).

A machine is `Yielding` if it gives up whenever it finds its signal
cancelled, or does what it does anyway. Raced against its signal and a
deadline, such a machine goes in step with itself undisturbed until it is
about to give up (`Reached.lockstep`). So whatever it settles with is what it
settles with undisturbed, at the same instant, unless it gives up for a
signal that is cancelled by then (`settled_lockstep`); where it loses to its
deadline it does so undisturbed (`lost_lockstep`).
-/


namespace Amanuensis

/-- A client in which no request cancels the caller's signal. -/
def Client.sparing (client : Client) : Client :=
  ⟨fun tally q => { client.reply tally q with cancels := false }⟩

namespace Task

variable {σ τ ε δ ρ π : Type}

/-- The same setting if nobody cancels the signal. -/
def Setting.undisturbed (e : Setting ε) : Setting ε :=
  { e.patient with client := e.client.sparing }

/-- The signal of a task has not been cancelled before now. -/
def Setting.Fresh (e : Setting ε) (m : Moment) : Prop :=
  ∀ s, m.seen e.signalled = some s → m.now ≤ s

/-- The same turn if nobody cancels the signal. -/
def Turn.undisturbed (turn : Turn σ ε) : Turn σ ε :=
  { turn with moment := turn.moment.withStop none }

variable {e : Setting ε} {m : Moment}

@[simp] theorem Moment.withStop_seen (m : Moment) (signalled : Bool) :
    (m.withStop none).seen signalled = none := by
  cases signalled <;> rfl

@[simp] theorem Moment.withStop_cancelled (m : Moment) (signalled : Bool) :
    (m.withStop none).cancelled signalled = false := by
  cases signalled <;> rfl

theorem Setting.undisturbed_quiet (e : Setting ε) : e.undisturbed.Quiet := by
  refine ⟨fun _ _ => rfl, fun cancels hlistener n event => ?_⟩
  obtain ⟨f, -, rfl⟩ := Option.map_eq_some_iff.1 hlistener
  rfl

theorem Setting.undisturbed_calm (e : Setting ε) (m : Moment) :
    e.undisturbed.Calm (m.withStop none) := fun _ => ⟨e.undisturbed_quiet, rfl⟩

theorem Setting.heard_undisturbed (event : ε) (t : Instant) :
    e.undisturbed.heard event t = e.heard event t := by
  unfold Setting.heard Setting.undisturbed Setting.patient
  cases e.listener <;> rfl

theorem Setting.told_undisturbed (event : ε) :
    e.undisturbed.told (m.withStop none) event = (e.told m event).withStop none := by
  unfold Setting.told Setting.undisturbed Setting.patient
  cases e.listener with
  | none => rfl
  | some cancels =>
    simp only [Option.map_some, Bool.false_eq_true, if_false]
    split <;> rfl

theorem Setting.sent_undisturbed (q : Client.Request) :
    e.undisturbed.sent (m.withStop none) q = (e.sent m q).withStop none := by
  unfold Setting.sent
  split
  · rename_i hcancels
    cases hcancels
  · split <;> rfl

/-! ## Machines that yield -/

/-- A state of which a machine makes nothing but to give up. -/
def Yields (step : Instant → Bool → σ → Move σ ε ρ) (givesUp : ρ → Prop) (s : σ) : Prop :=
  ∀ now cancelled, ∃ r, step now cancelled s = .settle r ∧ givesUp r

/-- A move that leads to such a state where a wait is cut short or a request
is given up. -/
def Move.Heeds (yields : σ → Prop) : Move σ ε ρ → Prop
  | .settle _ => True
  | .report _ _ => True
  | .cancel _ => False
  | .wait _ _ next => yields (next .cancelled)
  | .ask _ _ next => yields (next none) ∧ yields (next (some (.error .cancelled)))

/-- A machine that gives up where it finds its signal cancelled, or does what
it does anyway. It does not cancel the signal itself. -/
structure Yielding (step : Instant → Bool → σ → Move σ ε ρ) (givesUp : ρ → Prop) : Prop where
  heeds : ∀ now s, (step now false s).Heeds (Yields step givesUp)
  finds : ∀ now s, step now true s = step now false s ∨
    ∃ r, step now true s = .settle r ∧ givesUp r

/-- A move that is placed inside another machine remains so. -/
theorem Move.Heeds.map {move : Move σ ε ρ} {place : σ → τ} {event : ε → δ} {answer : ρ → π}
    {yields : σ → Prop} {yields' : τ → Prop} (h : move.Heeds yields)
    (hplace : ∀ s, yields s → yields' (place s)) :
    (move.map place event answer).Heeds yields' := by
  cases move with
  | settle | report => trivial
  | cancel => exact h
  | wait span heeds next => exact hplace _ h
  | ask q heeds next => exact ⟨hplace _ h.1, hplace _ h.2⟩

variable {step : Instant → Bool → σ → Move σ ε ρ} {givesUp : ρ → Prop} {turn : Turn σ ε}
variable {s : σ} {t : Instant}

/-- It makes a turn only if that is what it does anyway. -/
theorem Yielding.turnAt (hstep : Yielding step givesUp) (hturn : e.turnAt step m s = .ok turn) :
    e.turn m (step m.now false s) = .ok turn := by
  unfold Setting.turnAt at hturn
  cases hcancelled : m.cancelled e.signalled with
  | false => rwa [hcancelled] at hturn
  | true =>
    rw [hcancelled] at hturn
    obtain hsame | ⟨r, hsettle, -⟩ := hstep.finds m.now s
    · rwa [hsame] at hturn
    · rw [hsettle] at hturn
      cases hturn

/-- And it settles as it does anyway, or gives up. -/
theorem Yielding.settles (hstep : Yielding step givesUp) {r : ρ}
    (hturn : e.turnAt step m s = .error r) :
    step m.now false s = .settle r ∨ m.cancelled e.signalled = true ∧ givesUp r := by
  have hsettle := turn_eq_error hturn
  cases hcancelled : m.cancelled e.signalled with
  | false =>
    rw [hcancelled] at hsettle
    exact .inl hsettle
  | true =>
    rw [hcancelled] at hsettle
    obtain hsame | ⟨r', hsettle', hgivesUp⟩ := hstep.finds m.now s
    · exact .inl (hsame.symm.trans hsettle)
    · cases hsettle'.symm.trans hsettle
      exact .inr ⟨rfl, hgivesUp⟩

/-- A state that yields is the end of a run. -/
theorem Yields.not_turn (h : Yields step givesUp s) : e.turnAt step m s ≠ .ok turn := by
  intro hturn
  obtain ⟨r, hsettle, -⟩ := h m.now (m.cancelled e.signalled)
  rw [Setting.turnAt, hsettle] at hturn
  cases hturn

/-! ## Turns -/

/-- A turn after which a task is about to give up, because its signal is
cancelled by then: it was given up before it began, or it is cut short. -/
def GivenUp (e : Setting ε) (m : Moment) (move : Move σ ε ρ) (yields : σ → Prop)
    (turn : Turn σ ε) : Prop :=
  ∃ t next, turn.resume = some (t, next) ∧ (turn.moment.goto t).cancelled e.signalled = true ∧
    yields next ∧ (t = turn.moment.now ∨ ∃ resume, Late t resume ∧
      e.undisturbed.turn (m.withStop none) move = .ok { turn.undisturbed with resume := resume })

/-- A wait of a task that yields. -/
theorem wait_lockstep {yields : σ → Prop} {span : Option Nat} {heeds : Bool} {next : Wake → σ}
    (hyields : yields (next .cancelled))
    (hturn : e.turn m (.wait span heeds next : Move σ ε ρ) = .ok turn) :
    e.undisturbed.turn (m.withStop none) (.wait span heeds next : Move σ ε ρ) =
        .ok turn.undisturbed ∨ GivenUp e m (.wait span heeds next : Move σ ε ρ) yields turn := by
  cases hturn
  have hcalm : e.undisturbed.turn (m.withStop none) (.wait span heeds next : Move σ ε ρ) =
      .ok ⟨[], m.withStop none, (span.map m.after).map fun d => (d, next .elapsed)⟩ := by
    simp only [Setting.turn, (e.undisturbed_calm m).await, Option.map_map]
    rfl
  cases hwait : m.await e.signalled (span.map m.after) heeds with
  | none =>
    -- it lasts for ever in either case
    have hdue : span.map m.after = none := by
      unfold Moment.await at hwait
      split at hwait
      · split at hwait <;> cases hwait
      · cases hwait
      · cases hwait
      · assumption
    refine .inl (hcalm.trans ?_)
    rw [hdue]
    rfl
  | some w =>
    obtain ⟨u, how⟩ := w
    obtain ⟨rfl, hdue⟩ | ⟨rfl, -⟩ := Moment.await_cases hwait
    · refine .inl (hcalm.trans ?_)
      rw [hdue]
      rfl
    · refine .inr ⟨u, _, rfl, Moment.cancelled_of_await hwait, hyields, .inr ⟨_, ?_, hcalm⟩⟩
      intro w hw
      obtain ⟨d, hd, rfl⟩ := Option.map_eq_some_iff.1 hw
      obtain ⟨delay, -, rfl⟩ := Option.map_eq_some_iff.1 hd
      rw [hd] at hwait
      exact Moment.await_le (le_due _ _) hwait

/-- And a request. -/
theorem ask_lockstep {yields : σ → Prop} {q : Client.Request} {heeds : Bool}
    {next : Option (Except Client.Error q.Answer) → σ} (hnone : yields (next none))
    (herror : yields (next (some (.error .cancelled))))
    (hturn : e.turn m (.ask q heeds next : Move σ ε ρ) = .ok turn) :
    e.undisturbed.turn (m.withStop none) (.ask q heeds next : Move σ ε ρ) =
        .ok turn.undisturbed ∨ GivenUp e m (.ask q heeds next : Move σ ε ρ) yields turn := by
  cases hgiven : heeds && m.cancelled e.signalled with
  | true =>
    have hcancelled : m.cancelled e.signalled = true := ((Bool.and_eq_true _ _).mp hgiven).2
    simp only [Setting.turn, hgiven, if_true] at hturn
    cases hturn
    exact .inr ⟨m.now, _, rfl, hcancelled, hnone, .inl rfl⟩
  | false =>
    rw [turn_ask hgiven] at hturn
    cases hturn
    have hcalm : e.undisturbed.turn (m.withStop none) (.ask q heeds next : Move σ ε ρ) =
        .ok ⟨[.asked q m.now], (e.sent m q).withStop none,
          ((e.sent m q).told (e.client.reply m.tally q)).map fun w => (w.1, next (some w.2))⟩ := by
      rw [(e.undisturbed_calm m).turn_ask, Setting.sent_undisturbed, Moment.told, Option.map_map,
        Setting.sent_now]
      rfl
    cases hreception : (e.sent m q).reception e.signalled heeds (e.client.reply m.tally q) with
    | none =>
      refine .inl (hcalm.trans ?_)
      rw [Moment.told_of_reception hreception]
      rfl
    | some w =>
      obtain ⟨u, a⟩ := w
      have hcut : yields (next a) → ((e.sent m q).goto u).cancelled e.signalled = true →
          Late u ((e.sent m q).told (e.client.reply m.tally q)) →
          GivenUp e m (.ask q heeds next : Move σ ε ρ) yields
            ⟨[.asked q m.now], e.sent m q, some (u, next a)⟩ := fun hyields hcancelled hlate =>
        ⟨u, _, rfl, hcancelled, hyields, .inr ⟨_, hlate.map fun w => next (some w.2), hcalm⟩⟩
      obtain ⟨answer, rfl, hanswer⟩ | ⟨rfl, hcancelled, hlate⟩ := Moment.reception_cases hreception
      · obtain htold | ⟨rfl, hcancelled, hlate⟩ := Moment.answer_cases hanswer
        · refine .inl (hcalm.trans ?_)
          rw [htold]
          rfl
        · exact .inr (hcut herror hcancelled hlate)
      · exact .inr (hcut hnone hcancelled hlate)

/-- **What a turn owes to a signal.** The turn of a task that yields is the
one that it makes undisturbed, unless the task is about to give up after
it. -/
theorem turn_lockstep {move : Move σ ε ρ} {yields : σ → Prop} (hmove : move.Heeds yields)
    (hturn : e.turn m move = .ok turn) :
    e.undisturbed.turn (m.withStop none) move = .ok turn.undisturbed ∨
      GivenUp e m move yields turn := by
  cases move with
  | settle result => cases hturn
  | cancel next => exact hmove.elim
  | wait span heeds next => exact wait_lockstep hmove hturn
  | ask q heeds next => exact ask_lockstep hmove.1 hmove.2 hturn
  | report event next =>
    rw [turn_report] at hturn ⊢
    cases hturn
    rw [Setting.heard_undisturbed, Setting.told_undisturbed]
    exact .inl rfl

/-- A turn leaves a signal that has not been cancelled before. -/
theorem Setting.Fresh.of_turn {move : Move σ ε ρ} (hfresh : e.Fresh m)
    (hturn : e.turn m move = .ok turn) : e.Fresh turn.moment := by
  intro s hs
  rw [(turn_sound hturn).now]
  obtain heq | heq := turn_seen e.signalled hturn
  · exact hfresh s (heq.symm.trans hs)
  · obtain hseen | rfl := Moment.seen_of_cancel (heq.symm.trans hs)
    · exact hfresh s hseen
    · exact Nat.le_refl _

/-! ## Races -/

variable {deadline : Option Instant} {race : Race} {m₀ : Moment} {s₀ : σ} {n moves : Nat}
variable {effects : List (Effect ε)}

/-- Undisturbed the only rival is the deadline. -/
theorem Race.first_undisturbed (deadline : Option Instant) (m : Moment) (signalled : Bool) :
    (Race.against deadline).first (m.withStop none) signalled =
      deadline.map fun d => (d, .deadline) := by
  simp only [Race.first, Moment.await, if_true, Moment.withStop_seen]
  cases deadline <;> rfl

/-- Whoever goes on in a race goes on undisturbed. -/
theorem Race.beats_undisturbed (h : (Race.against deadline).beats e.signalled turn = none)
    {w : Instant × σ} (hresume : turn.resume = some w) (hnow : ∀ d, deadline = some d →
      turn.moment.now ≤ d) :
    (Race.against deadline).beats e.signalled turn.undisturbed = none := by
  have hresume' : turn.undisturbed.resume = some w := hresume
  obtain hthen | hlt := Race.lt_of_beats_eq_none h hresume
  · have hdue : turn.undisturbed.resume.map (·.1) = some turn.undisturbed.moment.now := by
      rw [hresume', Option.map_some, hthen]
      rfl
    simp only [Race.beats, hdue, if_true]
  · refine Race.beats_of_lt (b := w.1 + 1) ?_ hresume' (Nat.lt_succ_self _)
    intro v hv
    rw [Turn.undisturbed, Race.first_undisturbed] at hv
    obtain ⟨d, rfl, rfl⟩ := Option.map_eq_some_iff.1 hv
    obtain ⟨v, hv, hle⟩ := Race.first_le_deadline e.signalled (hnow d rfl)
    exact Nat.lt_of_lt_of_le (hlt v hv) hle

/-- A task goes on before its deadline. -/
theorem Reached.lt_deadline (h : Reached step e (.against deadline) m₀ s₀ n effects m s)
    (hlt : ∀ d, deadline = some d → m₀.now < d) : ∀ d, deadline = some d → m.now < d := by
  induction h with
  | start => exact hlt
  | @move n effects m s turn t next _ hturn hbeats hresume ih =>
    intro d hd
    have hnow : turn.moment.now < d := (turn_sound hturn).now ▸ ih d hd
    rw [Moment.goto_now]
    obtain rfl | hbefore := Race.lt_of_beats_eq_none hbeats hresume
    · exact hnow
    · subst hd
      obtain ⟨v, hv, hle⟩ := Race.first_le_deadline e.signalled (Nat.le_of_lt hnow)
      exact Nat.lt_of_lt_of_le (hbefore v hv) hle

/-- And so it settles before it. -/
theorem lt_deadline_of_settled (hlt : ∀ d, deadline = some d → m₀.now < d) {r : ρ}
    (hsettled : (runFrom step e (.against deadline) moves m₀ s₀).outcome = .settled r) :
    ∀ d, deadline = some d → (runFrom step e (.against deadline) moves m₀ s₀).moment.now < d := by
  obtain ⟨n, effects, s, h, -, -⟩ := place_of_settled hsettled
  exact h.lt_deadline hlt

/-- It goes on before its signal is cancelled, too, or at that instant. -/
theorem Setting.Fresh.of_beats (hfresh : e.Fresh turn.moment)
    (hbeats : (Race.against deadline).beats e.signalled turn = none) {w : Instant × σ}
    (hresume : turn.resume = some w) : e.Fresh (turn.moment.goto w.1) := by
  intro s hs
  rw [Moment.goto_seen] at hs
  have hle : turn.moment.now ≤ s := hfresh s hs
  obtain hthen | hlt := Race.lt_of_beats_eq_none hbeats hresume
  · exact hthen ▸ hle
  · obtain ⟨v, hv, hmax⟩ := Race.first_le_seen deadline hs
    have hw : w.1 < max s turn.moment.now := Nat.lt_of_lt_of_le (hlt v hv) hmax
    rw [Nat.max_eq_left hle] at hw
    exact Nat.le_of_lt hw

/-! ## Runs -/

/-- **A task that yields goes in step with itself undisturbed**, until it is
about to give up. -/
theorem Reached.lockstep (hstep : Yielding step givesUp) (hfresh : e.Fresh m₀)
    (hlt : ∀ d, deadline = some d → m₀.now < d)
    (h : Reached step e (.against deadline) m₀ s₀ n effects m s) :
    (Reached step e.undisturbed (.against deadline) (m₀.withStop none) s₀ n effects
        (m.withStop none) s ∧ e.Fresh m) ∨
      m.cancelled e.signalled = true ∧ Yields step givesUp s := by
  induction h with
  | start => exact .inl ⟨.start, hfresh⟩
  | @move n effects m s turn t next h hturn hbeats hresume ih =>
    obtain ⟨hsame, hfresh'⟩ | ⟨-, hyields⟩ := ih
    · have hmove := hstep.turnAt hturn
      obtain hturn' | ⟨t', next', hresume', hcancelled, hyields, -⟩ :=
        turn_lockstep (hstep.heeds m.now s) hmove
      · refine .inl ⟨hsame.move ?_ (Race.beats_undisturbed hbeats hresume fun d hd => ?_) hresume,
          (hfresh'.of_turn hturn).of_beats hbeats hresume⟩
        · rwa [(e.undisturbed_calm m).turnAt]
        · rw [(turn_sound hturn).now]
          exact Nat.le_of_lt (h.lt_deadline hlt d hd)
      · cases hresume.symm.trans hresume'
        exact .inr ⟨hcancelled, hyields⟩
    · exact absurd hturn hyields.not_turn

/-- **What such a task settles with**, unless it gives up for a signal that
is cancelled by then: what it settles with undisturbed, at the same
instant. -/
theorem settled_lockstep (hstep : Yielding step givesUp) (hfresh : e.Fresh m₀)
    (hlt : ∀ d, deadline = some d → m₀.now < d) {r : ρ}
    (hsettled : (runFrom step e (.against deadline) moves m₀ s₀).outcome = .settled r) :
    ((runFrom step e (.against deadline) moves m₀ s₀).moment.cancelled e.signalled = true ∧
        givesUp r) ∨
      (runFrom step e.undisturbed (.against deadline) moves (m₀.withStop none) s₀).outcome =
          .settled r ∧
        (runFrom step e.undisturbed (.against deadline) moves (m₀.withStop none) s₀).moment.now =
          (runFrom step e (.against deadline) moves m₀ s₀).moment.now ∧
        e.Fresh (runFrom step e (.against deadline) moves m₀ s₀).moment := by
  obtain ⟨n, effects, s, h, hmoves, hturn⟩ := place_of_settled hsettled
  generalize (runFrom step e (.against deadline) moves m₀ s₀).moment = m at h hturn ⊢
  obtain ⟨hsame, hfresh'⟩ | ⟨hcancelled, hyields⟩ := h.lockstep hstep hfresh hlt
  · obtain hsettle | hgivesUp := hstep.settles hturn
    · have hturn' : e.undisturbed.turnAt step (m.withStop none) s = .error r := by
        rw [(e.undisturbed_calm m).turnAt, Moment.withStop_now, hsettle]
        rfl
      refine .inr ?_
      rw [runFrom_eq_iff.2 (.settled hsame hmoves hturn')]
      exact ⟨rfl, rfl, hfresh'⟩
    · exact .inl hgivesUp
  · obtain ⟨r', hsettle, hgivesUp⟩ := hyields m.now (m.cancelled e.signalled)
    cases hsettle.symm.trans (turn_eq_error hturn)
    exact .inl ⟨hcancelled, hgivesUp⟩

/-- **Where it loses to its deadline** it loses to it undisturbed, at the same
instant. -/
theorem lost_lockstep (hstep : Yielding step givesUp) (hfresh : e.Fresh m₀)
    (hlt : ∀ d, deadline = some d → m₀.now < d)
    (hlost : (runFrom step e (.against deadline) moves m₀ s₀).outcome = .lost .deadline) :
    (runFrom step e.undisturbed (.against deadline) moves (m₀.withStop none) s₀).outcome =
        .lost .deadline ∧
      (runFrom step e.undisturbed (.against deadline) moves (m₀.withStop none) s₀).moment.now =
        (runFrom step e (.against deadline) moves m₀ s₀).moment.now ∧
      e.Fresh (runFrom step e (.against deadline) moves m₀ s₀).moment := by
  obtain ⟨n, effects, m, s, turn, d, h, hmoves, hturn, hbeats, hmoment⟩ := place_of_lost hlost
  rw [hmoment]
  obtain ⟨hfirst, hwaits⟩ := Race.first_of_beats hbeats
  obtain ⟨rfl, hbefore⟩ := Race.deadline_of_first hfirst
  have hfresh' : e.Fresh (turn.moment.goto d) := fun s hs => Nat.le_of_lt (hbefore s hs)
  obtain ⟨hsame, -⟩ | ⟨-, hyields⟩ := h.lockstep hstep hfresh hlt
  · -- undisturbed it makes the same turn, and does not go on before the deadline either
    have hlate : ∃ resume, e.undisturbed.turnAt step (m.withStop none) s =
        .ok { turn.undisturbed with resume := resume } ∧ Late d resume := by
      rw [(e.undisturbed_calm m).turnAt]
      obtain hturn' | ⟨t, next, hresume, -, -, hthen | ⟨resume, hlate, hturn'⟩⟩ :=
        turn_lockstep (hstep.heeds m.now s) (hstep.turnAt hturn)
      · exact ⟨turn.resume, hturn', fun w hw => (hwaits w hw).1⟩
      · exact absurd hthen (hwaits _ hresume).2
      · exact ⟨resume, hturn', fun w hw => Nat.le_trans (hwaits _ hresume).1 (hlate w hw)⟩
    obtain ⟨resume, hturn', hlate⟩ := hlate
    have hnow : turn.undisturbed.moment.now < d := by
      rw [Turn.undisturbed, Moment.withStop_now, (turn_sound hturn).now]
      exact h.lt_deadline hlt d rfl
    have hbeats' : (Race.against (some d)).beats e.undisturbed.signalled
        { turn.undisturbed with resume := resume } = some (d, .deadline) :=
      Race.beats_of_late (Race.first_undisturbed (some d) turn.moment e.signalled) hnow hlate
    rw [runFrom_eq_iff.2 (.lost hsame hmoves hturn' hbeats')]
    exact ⟨rfl, rfl, hfresh'⟩
  · exact absurd hturn hyields.not_turn

/-- A run gets to no place in a race that it does not get to alone. -/
theorem Reached.alone (h : Reached step e race m₀ s₀ n effects m s) :
    Reached step e .free m₀ s₀ n effects m s := by
  induction h with
  | start => exact .start
  | move _ hturn _ hresume ih => exact ih.free_move hturn hresume

/-- Nor does it come any less far. -/
theorem Passes.raced {b : Instant} (h : Passes step e .free b m₀ s₀) :
    Passes step e race b m₀ s₀ := by
  obtain ⟨moves, hpasses⟩ := h
  refine ⟨moves, ?_⟩
  by_cases hover : (runFrom step e race moves m₀ s₀).outcome = .unfinished
  · obtain ⟨effects, s, hplace⟩ := place_of_unfinished hover
    rw [Ends.runFrom_eq (.unfinished hplace.alone)] at hpasses
    exact .inr (hpasses.resolve_left fun halone => halone rfl)
  · exact .inl hover

/-- A task that has a deadline, or is going to see its signal cancelled, gets
to no place at some instant or after it, unless it is about to give up there. -/
theorem exists_bound (hlt : ∀ d, deadline = some d → m₀.now < d)
    (hrival : deadline ≠ none ∨ ∃ reach s,
      (runFrom step e (.against deadline) reach m₀ s₀).moment.seen e.signalled = some s) :
    ∃ b reach, ∀ n effects m s, reach ≤ n →
      Reached step e (.against deadline) m₀ s₀ n effects m s → e.Fresh m → m.now < b := by
  obtain hsome | ⟨reach, s, hseen⟩ := hrival
  · obtain ⟨d, rfl⟩ := Option.ne_none_iff_exists'.1 hsome
    exact ⟨d, 0, fun _ _ _ _ _ h _ => h.lt_deadline hlt d rfl⟩
  · refine ⟨s + 1, reach, fun n effects m s' hle h hfresh => ?_⟩
    have hrun : runFrom step e (.against deadline) n m₀ s₀ = ⟨effects, .unfinished, m⟩ :=
      Ends.runFrom_eq (.unfinished h)
    obtain ⟨u, hu, hseen'⟩ := exists_seen_le_of_le hle hseen
    rw [hrun] at hseen'
    exact Nat.lt_succ_of_le (Nat.le_trans (hfresh u hseen') hu)

/-- **Such a task is over in the end** if undisturbed it gets to any instant or
is over. -/
theorem Yielding.finishes (hstep : Yielding step givesUp) (hfresh : e.Fresh m₀)
    (hlt : ∀ d, deadline = some d → m₀.now < d)
    (hpasses : ∀ b, Passes step e.undisturbed (.against deadline) b (m₀.withStop none) s₀)
    (hrival : deadline ≠ none ∨ ∃ reach s,
      (runFrom step e (.against deadline) reach m₀ s₀).moment.seen e.signalled = some s) :
    Finishes step e (.against deadline) m₀ s₀ := by
  obtain ⟨b, reach, hbound⟩ := exists_bound hlt hrival
  obtain ⟨moves, hpasses⟩ := hpasses b
  refine ⟨max moves reach + 1, fun hunfinished => ?_⟩
  obtain ⟨effects, s, h⟩ := place_of_unfinished hunfinished
  generalize (runFrom step e (.against deadline) (max moves reach + 1) m₀ s₀).moment = m at h
  -- the last place but one is one that it gets to undisturbed, or the last
  cases h with
  | @move _ effects m s _ _ _ h hturn _ _ =>
    obtain ⟨hsame, hfresh'⟩ | ⟨-, hyields⟩ := h.lockstep hstep hfresh hlt
    · have hrun : runFrom step e.undisturbed (.against deadline) (max moves reach)
          (m₀.withStop none) s₀ = ⟨effects, .unfinished, m.withStop none⟩ :=
        Ends.runFrom_eq (.unfinished hsame)
      have hbefore := hbound _ _ _ _ (Nat.le_max_right _ _) h hfresh'
      obtain hover | hlater := hpasses
      · rw [← runFrom_eq_of_le (Nat.le_max_left _ _) hover, hrun] at hover
        exact hover rfl
      · have hle := hsame.runFrom_now_le (Nat.le_max_left moves reach)
        exact Nat.not_le.2 hbefore (Nat.le_trans hlater hle)
    · exact hyields.not_turn hturn

end Task

end Amanuensis
