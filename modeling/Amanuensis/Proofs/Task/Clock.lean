import Amanuensis.Proofs.Task.Places
/-!
# What every turn does

Whatever a machine does and whoever cancels its signal, the clock of a run
never goes back, an effect happens at the instant of its turn, and the
requests and events among the effects are the ones that are counted.
`turn_sound` says so of a turn; of a run it follows by induction.
-/


namespace Amanuensis

namespace Task

variable {σ ε ρ : Type}

/-! ## Spans -/

/-- A span within the reach of the clock ends when it is over. -/
theorem due_of_lt {t : Instant} {span : Nat} (h : t + span < clockReach) : due t span = t + span :=
  if_pos h

/-- Beyond its reach a span lasts thirty years. -/
theorem due_of_le {t : Instant} {span : Nat} (h : clockReach ≤ t + span) :
    due t span = t + thirtyYears :=
  if_neg (Nat.not_lt.2 h)

theorem le_due (t : Instant) (span : Nat) : t ≤ due t span := by
  unfold due
  split <;> exact Nat.le_add_right _ _

/-- A span is at least waited for as long as it is, or for thirty years. -/
theorem add_min_le_due (t : Instant) (span : Nat) : t + min span thirtyYears ≤ due t span := by
  unfold due
  split
  · exact Nat.add_le_add_left (Nat.min_le_left _ _) t
  · exact Nat.add_le_add_left (Nat.min_le_right _ _) t

/-- And at most so. -/
theorem due_le_add_max (t : Instant) (span : Nat) : due t span ≤ t + max span thirtyYears := by
  unfold due
  split
  · exact Nat.add_le_add_left (Nat.le_max_left _ _) t
  · exact Nat.add_le_add_left (Nat.le_max_right _ _) t

/-- How long a span lasts at least, if the clock has to tell the instants up
to `last`: as long as it is, or thirty years if these are beyond its reach. -/
def atLeast (last : Instant) (span : Nat) : Nat :=
  if last ≤ clockReach then span else min span thirtyYears

/-- And at most. -/
def atMost (last : Instant) (span : Nat) : Nat :=
  if last ≤ clockReach then span else max span thirtyYears

theorem atLeast_pos {last : Instant} {span : Nat} (h : 0 < span) : 0 < atLeast last span := by
  unfold atLeast
  split
  · exact h
  · exact Nat.lt_min.2 ⟨h, by decide⟩

theorem atMost_mono {last : Instant} {span span' : Nat} (h : span ≤ span') :
    atMost last span ≤ atMost last span' := by
  unfold atMost
  split
  · exact h
  · exact Nat.max_le.2 ⟨Nat.le_trans h (Nat.le_max_left _ _), Nat.le_max_right _ _⟩

theorem le_atMost (last : Instant) (span : Nat) : span ≤ atMost last span := by
  unfold atMost
  split
  · exact Nat.le_refl _
  · exact Nat.le_max_left _ _

theorem add_atLeast_le_due {last t : Instant} {span : Nat} (h : t + span < last) :
    t + atLeast last span ≤ due t span := by
  unfold atLeast
  split
  · rename_i hlast
    exact Nat.le_of_eq (due_of_lt (Nat.lt_of_lt_of_le h hlast)).symm
  · exact add_min_le_due t span

theorem due_le_add_atMost {last t : Instant} {span : Nat}
    (h : last ≤ clockReach → t + span < last) : due t span ≤ t + atMost last span := by
  unfold atMost
  split
  · rename_i hlast
    exact Nat.le_of_eq (due_of_lt (Nat.lt_of_lt_of_le (h hlast) hlast))
  · exact due_le_add_max t span

variable {e : Setting ε} {m : Moment}

theorem Moment.le_await {signalled heeds : Bool} {due : Option Instant} {w : Instant × Wake}
    (hdue : ∀ d ∈ due, m.now ≤ d) (h : m.await signalled due heeds = some w) : m.now ≤ w.1 := by
  unfold Moment.await at h
  split at h
  · split at h <;> cases h
    · exact Nat.le_max_right _ _
    · exact hdue _ rfl
  · cases h
    exact Nat.le_max_right _ _
  · cases h
    exact hdue _ rfl
  · cases h

theorem Moment.le_answer {α : Type} {signalled : Bool} {r : Client.Reply α}
    {w : Instant × Except Client.Error α} (h : m.answer signalled r = some w) : m.now ≤ w.1 := by
  have hdue : ∀ d ∈ r.delay.map m.after, m.now ≤ d := by
    intro d hd
    obtain ⟨span, -, rfl⟩ := Option.map_eq_some_iff.1 (Option.mem_def.1 hd)
    exact le_due _ _
  unfold Moment.answer at h
  split at h
  · cases h
  · rename_i t hwait
    cases h
    exact Moment.le_await hdue hwait
  · rename_i t hwait
    have hle : m.now ≤ t := Moment.le_await hdue hwait
    split at h
    · cases h
      exact hle
    · obtain ⟨s, -, rfl⟩ := Option.map_eq_some_iff.1 h
      exact Nat.le_trans hle (Nat.le_max_right _ _)

theorem Moment.le_reception {α : Type} {signalled heeds : Bool} {r : Client.Reply α}
    {w : Instant × Option (Except Client.Error α)}
    (h : m.reception signalled heeds r = some w) : m.now ≤ w.1 := by
  unfold Moment.reception at h
  split at h
  · rename_i t a hanswer
    have hle : m.now ≤ t := Moment.le_answer hanswer
    split at h
    · cases h
      exact hle
    · split at h
      · rename_i u hwait
        cases h
        refine Moment.le_await ?_ hwait
        rintro d ⟨⟩
        exact hle
      · cases h
        exact hle
  · obtain ⟨u, hwait, rfl⟩ := Option.map_eq_some_iff.1 h
    exact Moment.le_await (by rintro d ⟨⟩) hwait

/-! ## Turns -/

@[simp] theorem Moment.cancel_now (m : Moment) : m.cancel.now = m.now := rfl

@[simp] theorem Moment.cancel_heard (m : Moment) : m.cancel.heard = m.heard := rfl

/-- Only the move that settles ends a run by itself. -/
theorem turn_eq_error {move : Move σ ε ρ} {result : ρ} (h : e.turn m move = .error result) :
    move = .settle result := by
  cases move with
  | settle =>
    cases h
    rfl
  | report event next =>
    simp only [Setting.turn] at h
    split at h <;> cases h
  | cancel next => cases h
  | wait span heeds next => cases h
  | ask q heeds next =>
    simp only [Setting.turn] at h
    split at h <;> cases h

/-- What a turn keeps to, whichever move it makes. -/
structure Turn.Sound (m : Moment) (turn : Turn σ ε) : Prop where
  /-- It takes no time by itself. -/
  now : turn.moment.now = m.now
  /-- The task goes on later. -/
  le_resume : ∀ w, turn.resume = some w → m.now ≤ w.1
  /-- Its effects happen at once. -/
  time : ∀ x ∈ turn.effects, x.time = m.now
  /-- There is one of them at most. -/
  one : turn.effects = [] ∨ ∃ x, turn.effects = [x]
  /-- Every event is counted. -/
  heard : turn.moment.heard = m.heard + (reportsOf turn.effects).length
  /-- A signal that has been cancelled remains so. -/
  stop : turn.moment.stop = none → m.stop = none

/-- **Every turn is sound.** -/
theorem turn_sound {move : Move σ ε ρ} {turn : Turn σ ε} (h : e.turn m move = .ok turn) :
    turn.Sound m := by
  cases move with
  | settle result => cases h
  | report event next =>
    simp only [Setting.turn] at h
    cases hl : e.listener with
    | none =>
      simp only [hl] at h
      cases h
      exact ⟨rfl, by rintro w ⟨⟩; exact Nat.le_refl _, by simp, .inl rfl, rfl, id⟩
    | some cancels =>
      simp only [hl] at h
      cases h
      constructor
      case now => split <;> rfl
      case le_resume => rintro w ⟨⟩; exact Nat.le_refl _
      case time => simp [Effect.time]
      case one => exact .inr ⟨_, rfl⟩
      case heard => split <;> rfl
      case stop => split <;> simp [Moment.cancel]
  | cancel next =>
    cases h
    exact ⟨rfl, by rintro w ⟨⟩; exact Nat.le_refl _, by simp, .inl rfl, rfl,
      by simp [Moment.cancel]⟩
  | wait span heeds next =>
    cases h
    refine ⟨rfl, ?_, by simp, .inl rfl, rfl, id⟩
    intro w hw
    obtain ⟨v, hv, rfl⟩ := Option.map_eq_some_iff.1 hw
    refine Moment.le_await ?_ hv
    intro d hd
    obtain ⟨span, -, rfl⟩ := Option.map_eq_some_iff.1 (Option.mem_def.1 hd)
    exact le_due _ _
  | ask q heeds next =>
    simp only [Setting.turn] at h
    split at h
    · -- given up before it is sent
      cases h
      exact ⟨rfl, by rintro w ⟨⟩; exact Nat.le_refl _, by simp, .inl rfl, rfl, id⟩
    · cases h
      constructor
      case now => split <;> rfl
      case le_resume =>
        intro w hw
        obtain ⟨v, hv, rfl⟩ := Option.map_eq_some_iff.1 hw
        have hle := Moment.le_reception hv
        revert hle
        split <;> exact id
      case time => simp [Effect.time]
      case one => exact .inr ⟨_, rfl⟩
      case heard => split <;> rfl
      case stop => split <;> simp [Moment.cancel]

/-! ## Runs -/

variable {step : Instant → Bool → σ → Move σ ε ρ} {race : Race}
variable {m₀ : Moment} {s₀ s : σ} {n : Nat} {effects : List (Effect ε)}

/-- The clock never goes back. -/
theorem Reached.now_le (h : Reached step e race m₀ s₀ n effects m s) : m₀.now ≤ m.now := by
  induction h with
  | start => exact Nat.le_refl _
  | move _ hturn _ hresume ih => exact Nat.le_trans ih ((turn_sound hturn).le_resume _ hresume)

/-- Nor does it stand later after fewer moves. -/
theorem Reached.runFrom_now_le (h : Reached step e race m₀ s₀ n effects m s) {moves : Nat}
    (hle : moves ≤ n) : (runFrom step e race moves m₀ s₀).moment.now ≤ m.now := by
  induction h with
  | start =>
    obtain rfl := Nat.le_zero.1 hle
    exact Nat.le_refl _
  | move h hturn hbeats hresume ih =>
    obtain rfl | hlt := Nat.eq_or_lt_of_le hle
    · have hrun := Ends.runFrom_eq (.unfinished (h.move hturn hbeats hresume))
      exact Nat.le_of_eq (congrArg (fun r => r.moment.now) hrun)
    · exact Nat.le_trans (ih (Nat.le_of_lt_succ hlt)) ((turn_sound hturn).le_resume _ hresume)

/-- What has happened has happened by now, and since the start. -/
theorem Reached.time_le (h : Reached step e race m₀ s₀ n effects m s) :
    ∀ x ∈ effects, m₀.now ≤ x.time ∧ x.time ≤ m.now := by
  induction h with
  | start => simp
  | move h hturn _ hresume ih =>
    have hsound := turn_sound hturn
    have hle := hsound.le_resume _ hresume
    intro x hx
    rcases List.mem_append.1 hx with hx | hx
    · obtain ⟨h1, h2⟩ := ih x hx
      exact ⟨h1, Nat.le_trans h2 hle⟩
    · rw [hsound.time x hx]
      exact ⟨h.now_le, hle⟩

/-- In particular its requests. -/
theorem Reached.request_le (h : Reached step e race m₀ s₀ n effects m s)
    {q : Client.Request × Instant} (hq : q ∈ requestsOf effects) : q.2 ≤ m.now := by
  obtain ⟨x, hx, hasked⟩ := List.mem_filterMap.1 hq
  cases x with
  | asked request t =>
    cases hasked
    exact (h.time_le _ hx).2
  | reported event t => cases hasked

/-- The events of a run are counted as they are heard. -/
theorem Reached.heard_eq (h : Reached step e race m₀ s₀ n effects m s) :
    m.heard = m₀.heard + (reportsOf effects).length := by
  induction h with
  | start => rfl
  | move _ hturn _ _ ih =>
    rw [Moment.goto_heard, (turn_sound hturn).heard, ih, reportsOf_append, List.length_append,
      Nat.add_assoc]

/-- A run does nothing before it begins. -/
theorem le_time_of_mem_runFrom {moves : Nat} {x : Effect ε}
    (h : x ∈ (runFrom step e race moves m s).effects) : m.now ≤ x.time := by
  have hends : Ends step e race m s moves (runFrom step e race moves m s) := runFrom_ends moves m s
  generalize runFrom step e race moves m s = r at h hends
  have htail : ∀ {n effects m' s' turn}, Reached step e race m s n effects m' s' →
      e.turnAt step m' s' = .ok turn → x ∈ effects ++ turn.effects → m.now ≤ x.time := by
    intro n effects m' s' turn hr hturn hx
    rcases List.mem_append.1 hx with hx | hx
    · exact (hr.time_le x hx).1
    · rw [(turn_sound hturn).time x hx]
      exact hr.now_le
  cases hends with
  | unfinished hr => exact (hr.time_le x h).1
  | settled hr => exact (hr.time_le x h).1
  | lost hr _ hturn => exact htail hr hturn h
  | stuck hr _ hturn => exact htail hr hturn h

/-- **The effects of a run are in the order of their instants.** -/
theorem runFrom_times_sorted (moves : Nat) (m : Moment) (s : σ) :
    ((runFrom step e race moves m s).effects.map Effect.time).Pairwise (· ≤ ·) := by
  have hone : ∀ {m : Moment} {turn : Turn σ ε}, turn.Sound m →
      (turn.effects.map Effect.time).Pairwise (· ≤ ·) := by
    intro m turn hsound
    obtain hnil | ⟨x, hx⟩ := hsound.one
    · rw [hnil]
      exact .nil
    · rw [hx]
      exact List.pairwise_singleton _ _
  induction moves generalizing m s with
  | zero => exact .nil
  | succ moves ih =>
    cases hturn : e.turnAt step m s with
    | error result =>
      rw [runFrom_of_error moves hturn]
      exact .nil
    | ok turn =>
      have hsound := turn_sound hturn
      cases hbeats : race.beats e.signalled turn with
      | some w =>
        rw [runFrom_of_beats moves hturn hbeats]
        exact hone hsound
      | none =>
        cases hresume : turn.resume with
        | none =>
          rw [runFrom_of_stuck moves hturn hbeats hresume]
          exact hone hsound
        | some w =>
          rw [runFrom_of_resume moves hturn hbeats hresume, Record.after, List.map_append,
            List.pairwise_append]
          refine ⟨hone hsound, ih _ _, fun t ht u hu => ?_⟩
          -- what the turn does is over before the run goes on
          obtain ⟨x, hx, rfl⟩ := List.mem_map.1 ht
          obtain ⟨y, hy, rfl⟩ := List.mem_map.1 hu
          rw [hsound.time x hx]
          exact Nat.le_trans (hsound.le_resume w hresume) (le_time_of_mem_runFrom hy)

/-- And so are its events. -/
theorem runFrom_reports_sorted (moves : Nat) (m : Moment) (s : σ) :
    (reportsOf (runFrom step e race moves m s).effects).Pairwise fun x y => x.2 ≤ y.2 := by
  have hsorted : (runFrom step e race moves m s).effects.Pairwise fun x y => x.time ≤ y.time :=
    List.pairwise_map.1 (runFrom_times_sorted moves m s)
  refine hsorted.filterMap _ fun x y hle a ha b hb => ?_
  cases x with
  | asked q t => cases ha
  | reported event t =>
    cases y with
    | asked q t => cases hb
    | reported event t =>
      cases ha
      cases hb
      exact hle

end Task

end Amanuensis
