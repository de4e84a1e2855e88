import Amanuensis.Proofs.Task.Race
/-!
# What a run knows of its signal

A signal that is cancelled stays so, and is never cancelled later than it
was to be (`turn_stop`, `exists_seen_le_of_over`). A wait that is cut short,
a request that is given up and a race that is lost to the signal all tell
that it is cancelled by then. A machine that has only so many moves left
after that is over in the end, whatever the service does and though no time
may pass (`Winding.finishes`).
-/


namespace Amanuensis

namespace Task

variable {σ τ ε δ ρ π α : Type} {m : Moment} {signalled heeds : Bool} {s t : Instant}

/-! ## Moments -/

theorem Moment.cancelled_iff :
    m.cancelled signalled = true ↔ ∃ s, m.seen signalled = some s ∧ s ≤ m.now := by
  unfold Moment.cancelled
  cases m.seen signalled <;> simp

theorem Moment.cancelled_of_seen (hseen : m.seen signalled = some s) (hle : s ≤ m.now) :
    m.cancelled signalled = true :=
  Moment.cancelled_iff.2 ⟨s, hseen, hle⟩

@[simp] theorem Moment.goto_seen (t : Instant) (signalled : Bool) :
    (m.goto t).seen signalled = m.seen signalled := rfl

/-- It stays cancelled as time goes on. -/
theorem Moment.cancelled_goto (h : m.cancelled signalled = true) (hle : m.now ≤ t) :
    (m.goto t).cancelled signalled = true := by
  obtain ⟨s, hseen, hs⟩ := Moment.cancelled_iff.1 h
  exact Moment.cancelled_of_seen (m := m.goto t) hseen (Nat.le_trans hs hle)

/-- Cancelling a signal can only bring its cancellation forward. -/
theorem Moment.seen_cancel (h : m.seen signalled = some s) :
    m.cancel.seen signalled = some (min s m.now) := by
  cases signalled with
  | false => cases h
  | true =>
    have hstop : m.stop = some s := h
    simp [Moment.seen, Moment.cancel, hstop]

/-- If it was not going to be cancelled then it is cancelled now. -/
theorem Moment.seen_of_cancel (h : m.cancel.seen signalled = some s) :
    m.seen signalled = some s ∨ s = m.now := by
  cases signalled with
  | false => cases h
  | true =>
    have hstop : m.cancel.stop = some s := h
    unfold Moment.cancel at hstop
    cases hbefore : m.stop with
    | none =>
      rw [hbefore] at hstop
      cases hstop
      exact .inr rfl
    | some s' =>
      rw [hbefore] at hstop
      have hmin : min s' m.now = s := Option.some.inj hstop
      by_cases hle : s' ≤ m.now
      · rw [Nat.min_eq_left hle] at hmin
        exact .inl (hbefore.trans (congrArg some hmin))
      · rw [Nat.min_eq_right (Nat.le_of_not_le hle)] at hmin
        exact .inr hmin.symm

/-! ## Waits, requests and races -/

/-- A wait ends when it is due, unless the signal cuts it short by then. -/
theorem Moment.await_cases {due : Option Instant} {how : Wake}
    (h : m.await signalled due heeds = some (t, how)) :
    (how = .elapsed ∧ due = some t) ∨
      (how = .cancelled ∧ ∃ s, m.seen signalled = some s ∧ t = max s m.now ∧
        ∀ d, due = some d → s ≤ d) := by
  have hseen : ∀ {s}, (if heeds then m.seen signalled else none) = some s →
      m.seen signalled = some s := by
    intro s hs
    split at hs
    · exact hs
    · cases hs
  unfold Moment.await at h
  split at h
  · split at h <;> cases h
    · rename_i hs hle
      exact .inr ⟨rfl, _, hseen hs, rfl, by rintro d ⟨⟩; exact hle⟩
    · exact .inl ⟨rfl, rfl⟩
  · cases h
    exact .inr ⟨rfl, _, hseen ‹_›, rfl, nofun⟩
  · cases h
    exact .inl ⟨rfl, rfl⟩
  · cases h

/-- What cuts a wait short is the signal. -/
theorem Moment.cancelled_of_await {due : Option Instant}
    (h : m.await signalled due heeds = some (t, .cancelled)) :
    (m.goto t).cancelled signalled = true := by
  obtain ⟨hhow, -⟩ | ⟨-, s, hseen, rfl, -⟩ := Moment.await_cases h
  · cases hhow
  · exact Moment.cancelled_of_seen (m := m.goto _) hseen (Nat.le_max_left _ _)

/-- No wait lasts longer than until it is due. -/
theorem Moment.await_le {d : Instant} {how : Wake} (hdue : m.now ≤ d)
    (h : m.await signalled (some d) heeds = some (t, how)) : t ≤ d := by
  obtain ⟨-, hd⟩ | ⟨-, s, -, rfl, hle⟩ := Moment.await_cases h
  · exact Nat.le_of_eq (Option.some.inj hd).symm
  · exact Nat.max_le.2 ⟨hle d rfl, hdue⟩

/-- One that is never due ends for the signal. -/
theorem Moment.cancelled_of_endless {how : Wake}
    (h : m.await signalled none heeds = some (t, how)) : how = .cancelled := by
  obtain ⟨-, hdue⟩ | ⟨hhow, -⟩ := Moment.await_cases h
  · cases hdue
  · exact hhow

/-- When and what a reply answers if nobody cancels the signal. -/
def Moment.told (m : Moment) (r : Client.Reply α) : Option (Instant × Except Client.Error α) :=
  r.told.map fun w => (due m.now w.1, w.2)

theorem Moment.told_eq (m : Moment) {r : Client.Reply α} {delay : Nat} (h : r.delay = some delay) :
    m.told r = r.ending.map fun a => (due m.now delay, a) := by
  unfold Moment.told Client.Reply.told
  rw [h]
  cases r.ending <;> rfl

theorem Moment.told_of_delay (m : Moment) {r : Client.Reply α} (h : r.delay = none) :
    m.told r = none := by
  unfold Moment.told Client.Reply.told
  rw [h]
  rfl

theorem Moment.ending_of_told {r : Client.Reply α} {w : Instant × Except Client.Error α}
    (h : m.told r = some w) : r.ending = some w.2 := by
  unfold Moment.told Client.Reply.told at h
  split at h
  · rename_i hending
    cases h
    exact hending
  · cases h

/-- A request is answered as the reply tells, unless it is given up as
cancelled before. -/
theorem Moment.answer_cases {r : Client.Reply α} {a : Except Client.Error α}
    (h : m.answer signalled r = some (t, a)) :
    m.told r = some (t, a) ∨
      a = .error .cancelled ∧ (m.goto t).cancelled signalled = true ∧ Late t (m.told r) := by
  unfold Moment.answer at h
  cases hdelay : r.delay with
  | none =>
    rw [hdelay] at h
    split at h
    · cases h
    · rename_i hwait
      cases h
      refine .inr ⟨rfl, Moment.cancelled_of_await hwait, ?_⟩
      rw [m.told_of_delay hdelay]
      exact .none
    · rename_i hwait
      cases Moment.cancelled_of_endless hwait
  | some delay =>
    rw [hdelay] at h
    have hwait : ∀ {u how}, m.await signalled (some (due m.now delay)) r.heeds = some (u, how) →
        u ≤ due m.now delay := fun hwait => Moment.await_le (le_due _ _) hwait
    rw [m.told_eq hdelay]
    split at h
    · cases h
    · rename_i hcut
      cases h
      refine .inr ⟨rfl, Moment.cancelled_of_await hcut, fun w hw => ?_⟩
      obtain ⟨answer, -, rfl⟩ := Option.map_eq_some_iff.1 hw
      exact hwait hcut
    · rename_i u helapsed
      obtain ⟨-, hu⟩ | ⟨hhow, -⟩ := Moment.await_cases helapsed
      · obtain rfl : due m.now delay = u := Option.some.inj hu
        split at h
        · rename_i answer hending
          cases h
          exact .inl (by rw [hending]; rfl)
        · rename_i hending
          -- the request stays open until the signal is cancelled
          obtain ⟨s, hseen, hs⟩ := Option.map_eq_some_iff.1 h
          cases hs
          have hcancelled : (m.goto (max s (due m.now delay))).cancelled signalled = true :=
            Moment.cancelled_of_seen (m := m.goto _) hseen (Nat.le_max_left _ _)
          refine .inr ⟨rfl, hcancelled, ?_⟩
          rw [hending]
          exact .none
      · cases hhow

/-- One that is not answered is not answered by the reply either. -/
theorem Moment.told_of_answer {r : Client.Reply α} (h : m.answer signalled r = none) :
    m.told r = none := by
  unfold Moment.answer at h
  cases hdelay : r.delay with
  | none => exact m.told_of_delay hdelay
  | some delay =>
    rw [hdelay, Option.map_some] at h
    rw [m.told_eq hdelay]
    split at h
    · rename_i hwait
      unfold Moment.await at hwait
      split at hwait
      · split at hwait <;> cases hwait
      · cases hwait
      · cases hwait
      · rename_i hdue
        cases hdue
    · cases h
    · split at h
      · cases h
      · rename_i hending
        rw [hending]
        rfl

/-- What is received of a request is the answer, unless it is given up for
the signal before. -/
theorem Moment.reception_cases {r : Client.Reply α} {a : Option (Except Client.Error α)}
    (h : m.reception signalled heeds r = some (t, a)) :
    (∃ answer, a = some answer ∧ m.answer signalled r = some (t, answer)) ∨
      a = none ∧ (m.goto t).cancelled signalled = true ∧ Late t (m.told r) := by
  unfold Moment.reception at h
  split at h
  · rename_i u answer hanswer
    split at h
    · cases h
      exact .inl ⟨answer, rfl, hanswer⟩
    · split at h
      · rename_i v hwait
        cases h
        refine .inr ⟨rfl, Moment.cancelled_of_await hwait, fun w hw => ?_⟩
        have hle : t ≤ u := Moment.await_le (Moment.le_answer hanswer) hwait
        obtain htold | ⟨-, -, hlate⟩ := Moment.answer_cases hanswer
        · cases htold.symm.trans hw
          exact hle
        · exact Nat.le_trans hle (hlate w hw)
      · cases h
        exact .inl ⟨answer, rfl, hanswer⟩
  · rename_i hanswer
    obtain ⟨⟨u, how⟩, hwait, hw⟩ := Option.map_eq_some_iff.1 h
    cases hw
    obtain rfl : how = .cancelled := Moment.cancelled_of_endless hwait
    refine .inr ⟨rfl, Moment.cancelled_of_await hwait, ?_⟩
    rw [Moment.told_of_answer hanswer]
    exact .none

/-- If nothing is received of it, the reply tells nothing. -/
theorem Moment.told_of_reception {r : Client.Reply α} (h : m.reception signalled heeds r = none) :
    m.told r = none := by
  unfold Moment.reception at h
  split at h
  · split at h
    · cases h
    · split at h <;> cases h
  · exact Moment.told_of_answer ‹_›

/-! ## Turns -/

variable {e : Setting ε} {move : Move σ ε ρ} {turn : Turn σ ε}

/-- A turn leaves the signal as it is, or cancels it at once. -/
theorem turn_stop (hturn : e.turn m move = .ok turn) :
    turn.moment.stop = m.stop ∨ turn.moment.stop = m.cancel.stop := by
  cases move with
  | settle result => cases hturn
  | report event next =>
    rw [turn_report] at hturn
    cases hturn
    simp only [Setting.told]
    split
    · exact .inl rfl
    · split
      · exact .inr rfl
      · exact .inl rfl
  | cancel next =>
    cases hturn
    exact .inr rfl
  | wait span heeds next =>
    cases hturn
    exact .inl rfl
  | ask q heeds next =>
    simp only [Setting.turn] at hturn
    split at hturn <;> cases hturn
    · exact .inl rfl
    · simp only
      split
      · exact .inr rfl
      · exact .inl rfl

theorem turn_seen (signalled : Bool) (hturn : e.turn m move = .ok turn) :
    turn.moment.seen signalled = m.seen signalled ∨
      turn.moment.seen signalled = m.cancel.seen signalled := by
  unfold Moment.seen
  obtain hstop | hstop := turn_stop hturn <;> rw [hstop]
  · exact .inl rfl
  · exact .inr rfl

/-- A signal that is to be cancelled at some instant is, or earlier. -/
theorem exists_seen_le (hturn : e.turn m move = .ok turn) (hseen : m.seen signalled = some s) :
    ∃ s' ≤ s, turn.moment.seen signalled = some s' := by
  obtain heq | heq := turn_seen signalled hturn
  · exact ⟨s, Nat.le_refl s, heq.trans hseen⟩
  · exact ⟨_, Nat.min_le_left _ _, heq.trans (Moment.seen_cancel hseen)⟩

/-- A signal that is cancelled is so after the turn. -/
theorem turn_cancelled (hturn : e.turn m move = .ok turn) (h : m.cancelled signalled = true) :
    turn.moment.cancelled signalled = true := by
  obtain ⟨s, hseen, hle⟩ := Moment.cancelled_iff.1 h
  obtain ⟨s', hs', hseen'⟩ := exists_seen_le hturn hseen
  exact Moment.cancelled_of_seen hseen' ((turn_sound hturn).now ▸ Nat.le_trans hs' hle)

/-! ## Races -/

section Races

variable {race : Race} {rival : Rival} {deadline : Option Instant}

/-- Who wins is the first rival. -/
theorem Race.first_of_lost {due : Option Instant}
    (h : race.lost m signalled due = some (t, rival)) :
    race.first m signalled = some (t, rival) ∧ ∀ d, due = some d → t ≤ d := by
  unfold Race.lost at h
  split at h
  · split at h <;> cases h
    exact ⟨‹_›, by rintro d ⟨⟩; assumption⟩
  · exact ⟨h, nofun⟩
  · cases h

/-- Over a task that waits. -/
theorem Race.first_of_beats (h : race.beats signalled turn = some (t, rival)) :
    race.first turn.moment signalled = some (t, rival) ∧
      ∀ w, turn.resume = some w → t ≤ w.1 ∧ w.1 ≠ turn.moment.now := by
  unfold Race.beats at h
  simp only at h
  split at h
  · cases h
  · rename_i hwaits
    obtain ⟨hfirst, hle⟩ := Race.first_of_lost h
    refine ⟨hfirst, fun w hw => ?_⟩
    rw [hw] at hle hwaits
    exact ⟨hle _ rfl, fun hnow => hwaits (congrArg some hnow)⟩

/-- A task that goes on later goes on before every rival. -/
theorem Race.lt_of_beats_eq_none (h : race.beats signalled turn = none) {w : Instant × σ}
    (hresume : turn.resume = some w) :
    w.1 = turn.moment.now ∨
      ∀ v, race.first turn.moment signalled = some v → w.1 < v.1 := by
  unfold Race.beats at h
  simp only [hresume, Option.map_some] at h
  split at h
  · rename_i hnow
    exact .inl (Option.some.inj hnow)
  · refine .inr fun v hv => ?_
    simp only [Race.lost, hv] at h
    split at h
    · cases h
    · exact Nat.not_le.1 ‹_›

/-- One that never goes on has no rivals. -/
theorem Race.first_eq_none_of_beats (h : race.beats signalled turn = none)
    (hresume : turn.resume = none) : race.first turn.moment signalled = none := by
  simpa [Race.beats, Race.lost, hresume] using h

/-- A race is lost to the signal when it is cancelled. -/
theorem Race.cancelled_of_first (h : race.first m signalled = some (t, .signal)) :
    (m.goto t).cancelled signalled = true := by
  unfold Race.first at h
  split at h
  · cases h
  · split at h <;> cases h
    exact Moment.cancelled_of_await ‹_›

/-- And to the deadline at the deadline, before the signal is cancelled. -/
theorem Race.deadline_of_first
    (h : (Race.against deadline).first m signalled = some (t, .deadline)) :
    deadline = some t ∧ ∀ s, m.seen signalled = some s → t < s := by
  simp only [Race.first, Moment.await, if_true] at h
  cases hseen : m.seen signalled with
  | none => cases deadline <;> simp_all
  | some s =>
    cases deadline with
    | none => simp [hseen] at h
    | some d =>
      simp only [hseen] at h
      by_cases hle : s ≤ d
      · simp [hle] at h
      · simp only [if_neg hle] at h
        cases h
        exact ⟨rfl, by rintro s' ⟨⟩; exact Nat.not_le.1 hle⟩

/-- The deadline is a rival, -/
theorem Race.first_le_deadline {d : Instant} (signalled : Bool) (hnow : m.now ≤ d) :
    ∃ w, (Race.against (some d)).first m signalled = some w ∧ w.1 ≤ d := by
  simp only [Race.first, Moment.await, if_true]
  cases hseen : m.seen signalled with
  | none => exact ⟨_, rfl, Nat.le_refl d⟩
  | some s =>
    by_cases hle : s ≤ d
    · simp only [if_pos hle]
      exact ⟨_, rfl, Nat.max_le.2 ⟨hle, hnow⟩⟩
    · simp only [if_neg hle]
      exact ⟨_, rfl, Nat.le_refl d⟩

/-- and so is the signal. -/
theorem Race.first_le_seen (deadline : Option Instant) (h : m.seen signalled = some s) :
    ∃ w, (Race.against deadline).first m signalled = some w ∧ w.1 ≤ max s m.now := by
  simp only [Race.first, Moment.await, if_true, h]
  cases deadline with
  | none => exact ⟨_, rfl, Nat.le_refl _⟩
  | some d =>
    by_cases hle : s ≤ d
    · simp only [if_pos hle]
      exact ⟨_, rfl, Nat.le_refl _⟩
    · simp only [if_neg hle]
      exact ⟨_, rfl, Nat.le_trans (Nat.le_of_not_le hle) (Nat.le_max_left _ _)⟩

/-- There are no others. -/
theorem Race.first_eq_none (h : (Race.against deadline).first m signalled = none) :
    deadline = none ∧ m.seen signalled = none := by
  simp only [Race.first, Moment.await, if_true] at h
  cases hseen : m.seen signalled with
  | none => cases deadline <;> simp_all
  | some s =>
    cases deadline with
    | none => simp [hseen] at h
    | some d => by_cases hle : s ≤ d <;> simp [hseen, hle] at h

/-! A race that is lost before the task makes a move. -/

theorem Race.cancelled_of_lost (h : race.lost m signalled (some m.now) = some (t, .signal)) :
    m.cancelled signalled = true := by
  obtain ⟨hfirst, hle⟩ := Race.first_of_lost h
  have hthen : (m.goto t).cancelled signalled = true := Race.cancelled_of_first hfirst
  have hnow : ((m.goto t).goto m.now).cancelled signalled = true :=
    Moment.cancelled_goto hthen (hle _ rfl)
  exact hnow

theorem Race.deadline_of_lost (hnow : ∀ d, deadline = some d → m.now ≤ d)
    (h : (Race.against deadline).lost m signalled (some m.now) = some (t, .deadline)) :
    deadline = some m.now ∧ ∀ s, m.seen signalled = some s → m.now < s := by
  obtain ⟨hfirst, hle⟩ := Race.first_of_lost h
  obtain ⟨hdeadline, hbefore⟩ := Race.deadline_of_first hfirst
  obtain rfl : t = m.now := Nat.le_antisymm (hle _ rfl) (hnow t hdeadline)
  exact ⟨hdeadline, hbefore⟩

/-- One that is not is before the deadline. -/
theorem Race.lt_deadline (hnow : ∀ d, deadline = some d → m.now ≤ d)
    (h : (Race.against deadline).lost m signalled (some m.now) = none) :
    ∀ d, deadline = some d → m.now < d := by
  rintro d rfl
  obtain ⟨w, hfirst, hle⟩ := Race.first_le_deadline signalled (hnow d rfl)
  simp only [Race.lost, hfirst] at h
  split at h
  · cases h
  · exact Nat.lt_of_lt_of_le (Nat.not_le.1 ‹_›) hle

end Races

/-! ## Runs -/

variable {step : Instant → Bool → σ → Move σ ε ρ} {race : Race}
variable {m₀ : Moment} {s₀ st : σ} {n moves : Nat} {effects : List (Effect ε)}

/-- The place of a run that is not over, -/
theorem place_of_unfinished (h : (runFrom step e race moves m₀ s₀).outcome = .unfinished) :
    ∃ effects st, Reached step e race m₀ s₀ moves effects
      (runFrom step e race moves m₀ s₀).moment st := by
  have hends : Ends step e race m₀ s₀ moves (runFrom step e race moves m₀ s₀) :=
    runFrom_ends moves m₀ s₀
  generalize runFrom step e race moves m₀ s₀ = r at h hends ⊢
  cases hends with
  | unfinished hplace => exact ⟨_, _, hplace⟩
  | settled => cases h
  | lost => cases h
  | stuck => cases h

/-- of one that settles, -/
theorem place_of_settled {r : ρ} (h : (runFrom step e race moves m₀ s₀).outcome = .settled r) :
    ∃ n effects st, Reached step e race m₀ s₀ n effects
        (runFrom step e race moves m₀ s₀).moment st ∧ n < moves ∧
      e.turnAt step (runFrom step e race moves m₀ s₀).moment st = .error r := by
  have hends : Ends step e race m₀ s₀ moves (runFrom step e race moves m₀ s₀) :=
    runFrom_ends moves m₀ s₀
  generalize runFrom step e race moves m₀ s₀ = r at h hends ⊢
  cases hends with
  | unfinished => cases h
  | settled hplace hlt hturn =>
    cases h
    exact ⟨_, _, _, hplace, hlt, hturn⟩
  | lost => cases h
  | stuck => cases h

/-- and of one that loses. -/
theorem place_of_lost {rival : Rival}
    (h : (runFrom step e race moves m₀ s₀).outcome = .lost rival) :
    ∃ n effects m st turn t, Reached step e race m₀ s₀ n effects m st ∧ n < moves ∧
      e.turnAt step m st = .ok turn ∧ race.beats e.signalled turn = some (t, rival) ∧
      (runFrom step e race moves m₀ s₀).moment = turn.moment.goto t := by
  have hends : Ends step e race m₀ s₀ moves (runFrom step e race moves m₀ s₀) :=
    runFrom_ends moves m₀ s₀
  generalize runFrom step e race moves m₀ s₀ = r at h hends ⊢
  cases hends with
  | unfinished => cases h
  | settled => cases h
  | lost hplace hlt hturn hbeats =>
    cases h
    exact ⟨_, _, _, _, _, _, hplace, hlt, hturn, hbeats, rfl⟩
  | stuck => cases h

/-- In the course of a run the cancellation of its signal is only brought
forward. -/
theorem Reached.exists_seen_le (h : Reached step e race m₀ s₀ n effects m st)
    (hseen : m₀.seen signalled = some s) : ∃ s' ≤ s, m.seen signalled = some s' := by
  induction h with
  | start => exact ⟨s, Nat.le_refl s, hseen⟩
  | move _ hturn _ _ ih =>
    obtain ⟨s₁, hle₁, hseen₁⟩ := ih
    obtain ⟨s₂, hle₂, hseen₂⟩ := Task.exists_seen_le hturn hseen₁
    exact ⟨s₂, Nat.le_trans hle₂ hle₁, hseen₂⟩

/-- And so is it at the end of the run. -/
theorem runFrom_exists_seen_le (moves : Nat) (hseen : m₀.seen signalled = some s) :
    ∃ s' ≤ s, (runFrom step e race moves m₀ s₀).moment.seen signalled = some s' := by
  have hends : Ends step e race m₀ s₀ moves (runFrom step e race moves m₀ s₀) :=
    runFrom_ends moves m₀ s₀
  generalize runFrom step e race moves m₀ s₀ = r at hends ⊢
  have hlast : ∀ {n effects m st turn}, Reached step e race m₀ s₀ n effects m st →
      e.turnAt step m st = .ok turn → ∃ s' ≤ s, turn.moment.seen signalled = some s' := by
    intro n effects m st turn h hturn
    obtain ⟨s₁, hle₁, hseen₁⟩ := h.exists_seen_le hseen
    obtain ⟨s₂, hle₂, hseen₂⟩ := Task.exists_seen_le hturn hseen₁
    exact ⟨s₂, Nat.le_trans hle₂ hle₁, hseen₂⟩
  cases hends with
  | unfinished h => exact h.exists_seen_le hseen
  | settled h => exact h.exists_seen_le hseen
  | lost h _ hturn => exact hlast h hturn
  | stuck h _ hturn => exact hlast h hturn

/-- So a run with more moves sees it cancelled no later. -/
theorem exists_seen_le_of_le {reach : Nat} (hle : reach ≤ moves)
    (hseen : (runFrom step e race reach m₀ s₀).moment.seen signalled = some s) :
    ∃ s' ≤ s, (runFrom step e race moves m₀ s₀).moment.seen signalled = some s' := by
  by_cases hreach : (runFrom step e race reach m₀ s₀).outcome = .unfinished
  · -- the run goes on from there, so what is left of it has seen it too
    obtain ⟨effects, st, h⟩ := place_of_unfinished hreach
    rw [← Nat.add_sub_cancel' hle, h.runFrom_add]
    exact runFrom_exists_seen_le (moves - reach) hseen
  · rw [runFrom_eq_of_le hle hreach]
    exact ⟨s, Nat.le_refl s, hseen⟩

/-- **A run that is over has seen its signal cancelled as soon as any part of
it has.** -/
theorem exists_seen_le_of_over {reach : Nat}
    (hseen : (runFrom step e race reach m₀ s₀).moment.seen signalled = some s)
    (hover : (runFrom step e race moves m₀ s₀).outcome ≠ .unfinished) :
    ∃ s' ≤ s, (runFrom step e race moves m₀ s₀).moment.seen signalled = some s' := by
  have hmore : runFrom step e race moves m₀ s₀ = runFrom step e race (reach + moves) m₀ s₀ :=
    (runFrom_eq_of_le (Nat.le_add_left _ _) hover).symm
  rw [hmore]
  exact exists_seen_le_of_le (Nat.le_add_right _ _) hseen

/-- A run that loses to its signal finds it cancelled. -/
theorem cancelled_of_lost (hlost : (runFrom step e race moves m₀ s₀).outcome = .lost .signal) :
    (runFrom step e race moves m₀ s₀).moment.cancelled e.signalled = true := by
  obtain ⟨n, effects, m, st, turn, t, -, -, -, hbeats, hmoment⟩ := place_of_lost hlost
  rw [hmoment]
  exact Race.cancelled_of_first (Race.first_of_beats hbeats).1

/-- A run that gets stuck has neither a signal that is going to be cancelled
nor a deadline. -/
theorem first_eq_none_of_stuck (hstuck : (runFrom step e race moves m₀ s₀).outcome = .stuck) :
    race.first (runFrom step e race moves m₀ s₀).moment e.signalled = none := by
  have hends : Ends step e race m₀ s₀ moves (runFrom step e race moves m₀ s₀) :=
    runFrom_ends moves m₀ s₀
  generalize runFrom step e race moves m₀ s₀ = r at hstuck hends ⊢
  cases hends with
  | unfinished => cases hstuck
  | settled => cases hstuck
  | lost => cases hstuck
  | stuck _ _ _ hbeats hresume => exact Race.first_eq_none_of_beats hbeats hresume

/-! ## Runs whose signal is cancelled -/

/-- A move of a machine whose signal is cancelled, after which fewer moves
than so many are left. A request that heeds the signal is not even made. -/
def Move.Winds (left : σ → Nat) (here : Nat) : Move σ ε ρ → Prop
  | .settle _ => True
  | .report _ next => left next < here
  | .cancel next => left next < here
  | .wait _ _ next => ∀ how, left (next how) < here
  | .ask _ heeds next =>
    left (next none) < here ∧ (heeds = false → ∀ answer, left (next answer) < here)

/-- A machine that has only so many moves left once its signal is
cancelled. -/
def Winding (step : Instant → Bool → σ → Move σ ε ρ) (left : σ → Nat) : Prop :=
  ∀ now s, (step now true s).Winds left (left s)

/-- A move that is placed inside another machine remains so. -/
theorem Move.Winds.map {place : σ → τ} {event : ε → δ} {answer : ρ → π} {left : σ → Nat}
    {left' : τ → Nat} {here here' : Nat} (h : move.Winds left here)
    (hplace : ∀ s, left' (place s) = left s) (hle : here ≤ here') :
    (move.map place event answer).Winds left' here' := by
  have hless : ∀ {s}, left s < here → left' (place s) < here' := fun hlt =>
    Nat.lt_of_le_of_lt (Nat.le_of_eq (hplace _)) (Nat.lt_of_lt_of_le hlt hle)
  cases move with
  | settle r => trivial
  | report event next => exact hless h
  | cancel next => exact hless h
  | wait span heeds next => exact fun how => hless (h how)
  | ask q heeds next => exact ⟨hless h.1, fun hheeds a => hless (h.2 hheeds a)⟩

theorem turn_winds {left : σ → Nat} {here : Nat} {next : σ} (h : move.Winds left here)
    (hcancelled : m.cancelled e.signalled = true) (hturn : e.turn m move = .ok turn)
    (hresume : turn.resume = some (t, next)) : left next < here := by
  cases move with
  | settle r => cases hturn
  | report event next' =>
    rw [turn_report] at hturn
    cases hturn
    cases hresume
    exact h
  | cancel next' =>
    cases hturn
    cases hresume
    exact h
  | wait span heeds next' =>
    cases hturn
    obtain ⟨w, -, hw⟩ := Option.map_eq_some_iff.1 hresume
    cases hw
    exact h w.2
  | ask q heeds next' =>
    cases heeds with
    | true =>
      simp only [Setting.turn, hcancelled, Bool.and_self, if_true] at hturn
      cases hturn
      cases hresume
      exact h.1
    | false =>
      rw [turn_ask (Bool.false_and _)] at hturn
      cases hturn
      obtain ⟨w, -, hw⟩ := Option.map_eq_some_iff.1 hresume
      cases hw
      exact h.2 rfl w.2

/-- **Such a machine is over in the end** once its signal is cancelled. -/
theorem Winding.finishes {left : σ → Nat} (hstep : Winding step left)
    (hcancelled : m.cancelled e.signalled = true) : Finishes step e race m st := by
  -- the moves that are left shrink from turn to turn
  induction hleft : left st using Nat.strongRecOn generalizing m st with
  | ind here ih =>
    refine finishes_of_turn fun turn t next hturn hresume => ?_
    have hplace := hturn
    rw [Setting.turnAt, hcancelled] at hplace
    have hless := turn_winds (hstep m.now st) hcancelled hplace hresume
    have hlater : (turn.moment.goto t).cancelled e.signalled = true := by
      refine Moment.cancelled_goto (turn_cancelled hturn hcancelled) ?_
      exact (turn_sound hturn).now ▸ (turn_sound hturn).le_resume _ hresume
    exact ih _ (hleft ▸ hless) hlater rfl

/-- So is its run if the signal is cancelled at some time in it. -/
theorem Winding.finishes_of_cancelled {left : σ → Nat} {reach : Nat} (hstep : Winding step left)
    (h : (runFrom step e race reach m₀ s₀).moment.cancelled e.signalled = true) :
    Finishes step e race m₀ s₀ := by
  by_cases hreach : (runFrom step e race reach m₀ s₀).outcome = .unfinished
  · obtain ⟨effects, st, hplace⟩ := place_of_unfinished hreach
    have hfinishes : Finishes step e race (runFrom step e race reach m₀ s₀).moment st :=
      hstep.finishes h
    obtain ⟨more, hover⟩ := hfinishes
    refine ⟨reach + more, ?_⟩
    rw [hplace.runFrom_add]
    exact hover
  · exact ⟨reach, hreach⟩

end Task

end Amanuensis
