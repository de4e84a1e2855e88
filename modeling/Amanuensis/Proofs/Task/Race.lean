import Amanuensis.Proofs.Task.Invariant
import Amanuensis.Proofs.Task.Truncation
/-!
# Races

What becomes of a task that is raced against its signal and a deadline. It
is compared with the task alone: with a signal that nobody cancels, and
raced against nobody. Up to the first
rival the two make the same turns at the same instants (`Reached.raced`). If
the task alone settles before the first rival then so it does in the race
(`runFrom_won`); if it does not, and does not make moves without end either,
then the rival cuts it off when it comes, and what the task has done by
then is what it does alone before that instant (`runFrom_lost`).

Nothing is said of the task here but that it does not cancel the signal
itself (`SparesSignal`). It may wait for it, and do anything at all once it
is cancelled: that comes too late.
-/


namespace Amanuensis

namespace Task

variable {σ ε ρ α β : Type}

/-! ## What comes before an instant -/

/-- Something that does not come before an instant. -/
def Late (b : Instant) (o : Option (Instant × α)) : Prop := ∀ w, o = some w → b ≤ w.1

/-- Two things that are the same if one of them comes before an instant. -/
def SameBefore (b : Instant) (o o' : Option (Instant × α)) : Prop :=
  o = o' ∨ (Late b o ∧ Late b o')

variable {b : Instant} {o o' : Option (Instant × α)}

theorem Late.none : Late b (none : Option (Instant × α)) := nofun

theorem Late.some {w : Instant × α} (h : b ≤ w.1) : Late b (some w) := by
  rintro v ⟨⟩
  exact h

theorem Late.map (h : Late b o) (f : Instant × α → β) : Late b (o.map fun w => (w.1, f w)) := by
  intro w hw
  obtain ⟨v, hv, rfl⟩ := Option.map_eq_some_iff.1 hw
  exact h v hv

theorem SameBefore.map (h : SameBefore b o o') (f : α → β) :
    SameBefore b (o.map fun w => (w.1, f w.2)) (o'.map fun w => (w.1, f w.2)) := by
  obtain rfl | ⟨hlate, hlate'⟩ := h
  · exact .inl rfl
  · exact .inr ⟨hlate.map fun w => f w.2, hlate'.map fun w => f w.2⟩

theorem SameBefore.eq_some {w : Instant × α} (h : SameBefore b o o') (ho : o' = some w)
    (hlt : w.1 < b) : o = some w := by
  obtain rfl | ⟨-, hlate⟩ := h
  · exact ho
  · exact absurd (hlate w ho) (Nat.not_le.2 hlt)

theorem SameBefore.late (h : SameBefore b o o') (hlate : Late b o') : Late b o := by
  obtain rfl | ⟨hlate, -⟩ := h
  · exact hlate
  · exact hlate

/-! ## Waiting for what comes before the cancellation -/

section Waiting

variable {m : Moment} {signalled : Bool}

/-- A wait that is over before the signal is cancelled is over when it is
due. -/
theorem Moment.await_sameBefore (hstop : ∀ s, m.seen signalled = some s → b ≤ s)
    (due : Option Instant) (heeds : Bool) :
    SameBefore b (m.await signalled due heeds) (due.map fun d => (d, .elapsed)) := by
  cases hseen : (if heeds then m.seen signalled else none) with
  | none => cases due <;> simp only [Moment.await, hseen] <;> exact .inl rfl
  | some s =>
    have hs : b ≤ s := by
      split at hseen
      · exact hstop s hseen
      · cases hseen
    have hlate : Late b (some (max s m.now, Wake.cancelled)) :=
      .some (Nat.le_trans hs (Nat.le_max_left _ _))
    cases due with
    | none =>
      simp only [Moment.await, hseen]
      exact .inr ⟨hlate, .none⟩
    | some d =>
      simp only [Moment.await, hseen]
      split
      · rename_i hle
        exact .inr ⟨hlate, .some (Nat.le_trans hs hle)⟩
      · exact .inl rfl

/-- An answer before that is the one that the reply tells. -/
theorem Moment.answer_sameBefore (hstop : ∀ s, m.seen signalled = some s → b ≤ s)
    (r : Client.Reply α) :
    SameBefore b (m.answer signalled r) (r.told.map fun w => (due m.now w.1, w.2)) := by
  unfold Moment.answer Client.Reply.told
  obtain hwait | ⟨hlate, hdue⟩ := Moment.await_sameBefore hstop (r.delay.map m.after) r.heeds
  · rw [hwait]
    cases r.delay with
    | none => exact .inl rfl
    | some d =>
      cases r.ending with
      | some a => exact .inl rfl
      | none =>
        -- the request stays open until the signal is cancelled
        refine .inr ⟨fun w hw => ?_, .none⟩
        obtain ⟨s, hs, rfl⟩ := Option.map_eq_some_iff.1 hw
        exact Nat.le_trans (hstop s hs) (Nat.le_max_left _ _)
  · refine .inr ⟨?_, ?_⟩
    · intro w hw
      split at hw
      · cases hw
      · rename_i t hwait
        cases hw
        exact hlate _ hwait
      · rename_i t hwait
        split at hw
        · cases hw
          exact hlate _ hwait
        · obtain ⟨s, hs, rfl⟩ := Option.map_eq_some_iff.1 hw
          exact Nat.le_trans (hstop s hs) (Nat.le_max_left _ _)
    · cases hdelay : r.delay with
      | none => exact .none
      | some d =>
        rw [hdelay] at hdue
        cases r.ending with
        | none => exact .none
        | some a => exact .some (hdue _ rfl)

/-- And so is what is received of a request. -/
theorem Moment.reception_sameBefore (hstop : ∀ s, m.seen signalled = some s → b ≤ s)
    (hlt : m.now < b) (heeds : Bool) (r : Client.Reply α) :
    SameBefore b (m.reception signalled heeds r)
      (r.told.map fun w => (due m.now w.1, some w.2)) := by
  have hgiven : Late b ((m.await signalled none heeds).map fun w =>
      (w.1, (none : Option (Except Client.Error α)))) :=
    ((Moment.await_sameBefore hstop none heeds).late .none).map _
  unfold Moment.reception
  obtain hanswer | ⟨hlate, hlate'⟩ := Moment.answer_sameBefore hstop r
  · -- the answer is the one that is told, and is waited for unless it comes too late
    rw [hanswer]
    cases r.told with
    | none => exact .inr ⟨hgiven, .none⟩
    | some w =>
      simp only [Option.map_some]
      split
      · exact .inl rfl
      · obtain hwait | ⟨hlate, hlate'⟩ :=
          Moment.await_sameBefore hstop (some (due m.now w.1)) heeds
        · rw [hwait]
          exact .inl rfl
        · have hdue : b ≤ due m.now w.1 := hlate' _ rfl
          refine .inr ⟨?_, .some hdue⟩
          split
          · rename_i u hwait
            exact .some (hlate _ hwait)
          · exact .some hdue
  · -- both come too late, and so does giving up
    refine .inr ⟨?_, ?_⟩
    · cases hanswer : m.answer signalled r with
      | none => exact hgiven
      | some w =>
        have hdue : b ≤ w.1 := hlate w hanswer
        have hnow : w.1 ≠ m.now := fun h => absurd hlt (Nat.not_lt.2 (h ▸ hdue))
        simp only [if_neg hnow]
        split
        · rename_i u hwait
          have hgone := (Moment.await_sameBefore hstop (some w.1) heeds).late (.some hdue)
          exact .some (hgone _ hwait)
        · exact .some hdue
    · have hmap := hlate'.map fun w => some w.2
      rwa [Option.map_map] at hmap

end Waiting

/-! ## Turns before the cancellation -/

variable {e : Setting ε} {m : Moment} {stop : Option Instant} {turn : Turn σ ε}

/-- Before the cancellation the task does not see it. -/
theorem Moment.cancelled_of_lt {signalled : Bool} (hstop : ∀ s, m.seen signalled = some s → b ≤ s)
    (hlt : m.now < b) : m.cancelled signalled = false := by
  unfold Moment.cancelled
  split
  · rename_i s hs
    exact decide_eq_false (Nat.not_le.2 (Nat.lt_of_lt_of_le hlt (hstop s hs)))
  · rfl

/-- **What a turn owes to the signal.** With a signal that is cancelled it is
the turn that it is without, except that it may end in another way if it
does not end before the cancellation. -/
theorem turn_withStop {move : Move σ ε ρ} (hquiet : e.Quiet) (hcalm : e.Calm m)
    (hstop : ∀ s, (m.withStop stop).seen e.signalled = some s → b ≤ s) (hlt : m.now < b)
    (hmove : ∀ next, move ≠ .cancel next) (hturn : e.turn m move = .ok turn) :
    ∃ resume, e.turn (m.withStop stop) move =
        .ok ⟨turn.effects, turn.moment.withStop stop, resume⟩ ∧
      SameBefore b resume turn.resume := by
  cases move with
  | settle result => cases hturn
  | cancel next => exact absurd rfl (hmove next)
  | report event next =>
    rw [turn_report] at hturn ⊢
    cases hturn
    exact ⟨_, by rw [Setting.told_withStop hquiet]; rfl, .inl rfl⟩
  | wait span heeds next =>
    simp only [Setting.turn, hcalm.await] at hturn
    cases hturn
    exact ⟨_, rfl, (Moment.await_sameBefore hstop (span.map m.after) heeds).map next⟩
  | ask q heeds next =>
    rw [hcalm.turn_ask] at hturn
    cases hturn
    have hcancelled := Moment.cancelled_of_lt hstop hlt
    rw [turn_ask (by rw [hcancelled, Bool.and_false]), Setting.sent_withStop hquiet]
    refine ⟨_, rfl, ?_⟩
    have hsame := (Moment.reception_sameBefore (m := (e.sent m q).withStop stop) hstop
      (by simpa using hlt) heeds (e.client.reply m.tally q)).map next
    rw [Option.map_map] at hsame
    simp only [Moment.withStop_now, Setting.sent_now] at hsame
    exact hsame

/-! ## Rivals -/

/-- The first of the rivals, of which the signal comes first at one instant. -/
def firstRival : (stop deadline : Option Instant) → Option (Instant × Rival)
  | some s, some d => if s ≤ d then some (s, .signal) else some (d, .deadline)
  | some s, none => some (s, .signal)
  | none, some d => some (d, .deadline)
  | none, none => none

theorem firstRival_signal {s : Instant} {deadline : Option Instant}
    (h : ∀ d, deadline = some d → s ≤ d) :
    firstRival (some s) deadline = some (s, .signal) := by
  cases deadline with
  | none => rfl
  | some d => exact if_pos (h d rfl)

theorem firstRival_deadline {d : Instant} (h : ∀ s, stop = some s → d < s) :
    firstRival stop (some d) = some (d, .deadline) := by
  cases stop with
  | none => rfl
  | some s => exact if_neg (Nat.not_le.2 (h s rfl))

/-- No rival comes before an instant. -/
structure Unrivalled (stop deadline : Option Instant) (b : Instant) : Prop where
  stop : ∀ s, stop = some s → b ≤ s
  deadline : ∀ d, deadline = some d → b ≤ d

variable {deadline : Option Instant} {rival : Rival}

/-- No rival comes before the first. -/
theorem unrivalled_of_first (h : firstRival stop deadline = some (b, rival)) :
    Unrivalled stop deadline b := by
  unfold firstRival at h
  split at h
  · split at h <;> cases h
    · rename_i hle
      exact ⟨by rintro s ⟨⟩; exact Nat.le_refl _, by rintro d ⟨⟩; exact hle⟩
    · rename_i hle
      exact ⟨by rintro s ⟨⟩; exact Nat.le_of_not_le hle, by rintro d ⟨⟩; exact Nat.le_refl _⟩
  · cases h
    exact ⟨by rintro s ⟨⟩; exact Nat.le_refl _, nofun⟩
  · cases h
    exact ⟨nofun, by rintro d ⟨⟩; exact Nat.le_refl _⟩
  · cases h

/-- As long as the signal is not cancelled, a race is against the first
rival, whatever time it is. -/
theorem Race.first_against {signalled : Bool}
    (hnow : ∀ s, m.seen signalled = some s → m.now ≤ s) :
    (Race.against deadline).first m signalled = firstRival (m.seen signalled) deadline := by
  unfold Race.first Moment.await firstRival
  cases hseen : m.seen signalled with
  | none => cases deadline <;> rfl
  | some s =>
    have hmax : max s m.now = s := Nat.max_eq_left (hnow s hseen)
    cases deadline with
    | none => simp [hmax]
    | some d => by_cases hle : s ≤ d <;> simp [hmax, hle]

theorem Unrivalled.firstRival_late (h : Unrivalled stop deadline b) :
    Late b (firstRival stop deadline) := by
  intro w hw
  unfold firstRival at hw
  split at hw
  · split at hw <;> cases hw
    · exact h.stop _ rfl
    · exact h.deadline _ rfl
  · cases hw
    exact h.stop _ rfl
  · cases hw
    exact h.deadline _ rfl
  · cases hw

variable {race : Race} {signalled : Bool}

/-- Nobody wins over a task that goes on before the first rival. -/
theorem Race.lost_of_lt (hfirst : Late b (race.first m signalled)) {d : Instant} (hlt : d < b) :
    race.lost m signalled (some d) = none := by
  cases h : race.first m signalled with
  | none => simp only [Race.lost, h]
  | some v =>
    have hle : ¬ v.1 ≤ d := Nat.not_le.2 (Nat.lt_of_lt_of_le hlt (hfirst v h))
    simp only [Race.lost, h, if_neg hle]

/-- The first rival wins over one that does not. -/
theorem Race.lost_of_le (hfirst : race.first m signalled = some (b, rival)) {d : Instant}
    (hle : b ≤ d) : race.lost m signalled (some d) = some (b, rival) := by
  simp only [Race.lost, hfirst, if_pos hle]

theorem Race.beats_of_lt (hfirst : Late b (race.first turn.moment signalled)) {w : Instant × σ}
    (hresume : turn.resume = some w) (hlt : w.1 < b) : race.beats signalled turn = none := by
  simp only [Race.beats, hresume, Option.map_some, Race.lost_of_lt hfirst hlt, ite_self]

theorem Race.beats_of_late (hfirst : race.first turn.moment signalled = some (b, rival))
    (hnow : turn.moment.now < b) (hlate : Late b turn.resume) :
    race.beats signalled turn = some (b, rival) := by
  cases hresume : turn.resume with
  | none => simp [Race.beats, Race.lost, hfirst, hresume]
  | some w =>
    have hle : b ≤ w.1 := hlate w hresume
    have hne : some w.1 ≠ some turn.moment.now := fun h =>
      absurd hnow (Nat.not_lt.2 (Option.some.inj h ▸ hle))
    simp only [Race.beats, hresume, Option.map_some, if_neg hne, Race.lost_of_le hfirst hle]

/-! ## Runs against rivals -/

variable {step : Instant → Bool → σ → Move σ ε ρ} {result : ρ}
variable {m₀ : Moment} {s₀ s : σ} {n : Nat} {effects : List (Effect ε)}

/-- A task that does not cancel the caller's signal while nobody else does. -/
def SparesSignal (step : Instant → Bool → σ → Move σ ε ρ) (e : Setting ε) (m₀ : Moment)
    (s₀ : σ) : Prop :=
  ∀ n effects m s next, Reached step e .free m₀ s₀ n effects m s → step m.now false s ≠ .cancel next

/-- Such is one that leaves the signal alone altogether, -/
theorem NeverCancels.sparesSignal (hstep : NeverCancels step) : SparesSignal step e m₀ s₀ :=
  fun _ _ _ _ next _ => hstep _ _ _ next

/-- and one whose states are of a kind from which it never cancels it. -/
theorem Keeping.sparesSignal {state : σ → Prop} {request : Client.Request → Prop}
    {results : ρ → Prop} (hkeeps : Keeping step state request results) (hs : state s₀)
    (hcancel : ∀ now s next, state s → step now false s ≠ .cancel next) :
    SparesSignal step e m₀ s₀ :=
  fun _ _ _ _ next h => hcancel _ _ next (hkeeps.reached hs h)

/-- Its signal stays uncancelled. -/
theorem SparesSignal.calm (hspares : SparesSignal step e m₀ s₀) (hcalm : e.Calm m₀)
    (h : Reached step e .free m₀ s₀ n effects m s) : e.Calm m := by
  induction h with
  | start => exact hcalm
  | move h hturn _ _ ih =>
    rw [ih.turnAt] at hturn
    exact (ih.of_turn (fun next => hspares _ _ _ _ next h) hturn).goto _

/-- What such a task does before the cancellation. -/
theorem SparesSignal.turnAt (hspares : SparesSignal step e m₀ s₀) (hquiet : e.Quiet)
    (hcalm : e.Calm m₀) (h : Reached step e .free m₀ s₀ n effects m s)
    (hstop : ∀ t, (m.withStop stop).seen e.signalled = some t → b ≤ t) (hlt : m.now < b)
    (hturn : e.turnAt step m s = .ok turn) :
    ∃ resume, e.turnAt step (m.withStop stop) s =
        .ok ⟨turn.effects, turn.moment.withStop stop, resume⟩ ∧
      SameBefore b resume turn.resume := by
  have hcalm' : e.Calm m := hspares.calm hcalm h
  rw [hcalm'.turnAt] at hturn
  rw [Setting.turnAt, Moment.cancelled_of_lt hstop hlt, Moment.withStop_now]
  exact turn_withStop hquiet hcalm' hstop hlt (fun next => hspares _ _ _ _ next h) hturn

/-- The rivals of a race are the same wherever it stands before them. -/
theorem Unrivalled.first_eq (h : Unrivalled ((m₀.withStop stop).seen e.signalled) deadline b)
    (hlt : m.now < b) :
    (Race.against deadline).first (m.withStop stop) e.signalled =
      firstRival ((m₀.withStop stop).seen e.signalled) deadline :=
  Race.first_against (m := m.withStop stop) fun s hs =>
    Nat.le_of_lt (Nat.lt_of_lt_of_le hlt (h.stop s hs))

/-- **Before the first rival the race is no different.** -/
theorem Reached.raced (hquiet : e.Quiet) (hspares : SparesSignal step e m₀ s₀) (hcalm : e.Calm m₀)
    (hopen : Unrivalled ((m₀.withStop stop).seen e.signalled) deadline b)
    (h : Reached step e .free m₀ s₀ n effects m s) (hlt : m.now < b) :
    Reached step e (.against deadline) (m₀.withStop stop) s₀ n effects (m.withStop stop) s := by
  -- a place before the first rival is reached from places before it only
  induction h with
  | start => exact .start
  | @move n effects m s turn t next h hturn _ hresume ih =>
    have hsound := turn_sound hturn
    have hnow : m.now < b := Nat.lt_of_le_of_lt (hsound.le_resume _ hresume) hlt
    obtain ⟨resume, hturn', hsame⟩ :=
      hspares.turnAt hquiet hcalm h hopen.stop hnow hturn
    have hresume' := hsame.eq_some hresume hlt
    refine (ih hnow).move hturn' (Race.beats_of_lt ?_ hresume' hlt) hresume'
    rw [hopen.first_eq (hsound.now ▸ hnow)]
    exact hopen.firstRival_late

/-- A run does not settle before it begins. -/
theorem le_now_of_settled {moves : Nat}
    (hsettled : (runFrom step e race moves m₀ s₀).outcome = .settled result) :
    m₀.now ≤ (runFrom step e race moves m₀ s₀).moment.now := by
  have hends : Ends step e race m₀ s₀ moves (runFrom step e race moves m₀ s₀) :=
    runFrom_ends moves m₀ s₀
  generalize runFrom step e race moves m₀ s₀ = r at hsettled hends
  cases hends with
  | settled h => exact h.now_le
  | unfinished => cases hsettled
  | lost => cases hsettled
  | stuck => cases hsettled

/-- A run that settles before the first rival settles in the race. -/
theorem runFrom_won (hquiet : e.Quiet) (hspares : SparesSignal step e m₀ s₀) (hcalm : e.Calm m₀)
    (hopen : Unrivalled ((m₀.withStop stop).seen e.signalled) deadline b) {moves : Nat}
    (hsettled : (runFrom step e .free moves m₀ s₀).outcome = .settled result)
    (hlt : (runFrom step e .free moves m₀ s₀).moment.now < b) :
    runFrom step e (.against deadline) moves (m₀.withStop stop) s₀ =
      ⟨(runFrom step e .free moves m₀ s₀).effects, .settled result,
        (runFrom step e .free moves m₀ s₀).moment.withStop stop⟩ := by
  have hends : Ends step e .free m₀ s₀ moves (runFrom step e .free moves m₀ s₀) :=
    runFrom_ends moves m₀ s₀
  generalize runFrom step e .free moves m₀ s₀ = r at hsettled hlt hends ⊢
  cases hends with
  | unfinished => cases hsettled
  | lost => cases hsettled
  | stuck => cases hsettled
  | @settled n effects m s _ h hmoves hturn =>
    cases hsettled
    refine runFrom_eq_iff.2 (.settled (h.raced hquiet hspares hcalm hopen hlt) hmoves ?_)
    rw [(hspares.calm hcalm h).turnAt] at hturn
    have hcancelled := Moment.cancelled_of_lt (m := m.withStop stop) hopen.stop hlt
    rw [Setting.turnAt, hcancelled, Moment.withStop_now, turn_eq_error hturn]
    rfl

/-- A run that gets to an instant makes a last turn before it. -/
theorem Reached.exists_last (h : Reached step e race m₀ s₀ n effects m s) (hlt : m₀.now < b)
    (hle : b ≤ m.now) :
    ∃ n effects m s turn, Reached step e race m₀ s₀ n effects m s ∧ m.now < b ∧
      e.turnAt step m s = .ok turn ∧ Late b turn.resume := by
  induction h with
  | start => exact absurd hlt (Nat.not_lt.2 hle)
  | @move n effects m s turn t next h hturn _ hresume ih =>
    by_cases hnow : m.now < b
    · exact ⟨n, effects, m, s, turn, h, hnow, hturn, hresume ▸ .some hle⟩
    · exact ih (Nat.not_lt.1 hnow)

/-- So does a free run that gets stuck before it, or gets to it in any other
way than by settling earlier. -/
theorem exists_last {moves : Nat} (hlt : m₀.now < b)
    (hgets : (runFrom step e .free moves m₀ s₀).outcome ≠ .unfinished ∨
      b ≤ (runFrom step e .free moves m₀ s₀).moment.now)
    (hopen : ∀ result, (runFrom step e .free moves m₀ s₀).outcome = .settled result →
      b ≤ (runFrom step e .free moves m₀ s₀).moment.now) :
    ∃ n effects m s turn, Reached step e .free m₀ s₀ n effects m s ∧ m.now < b ∧
      e.turnAt step m s = .ok turn ∧ Late b turn.resume := by
  have hends : Ends step e .free m₀ s₀ moves (runFrom step e .free moves m₀ s₀) :=
    runFrom_ends moves m₀ s₀
  generalize runFrom step e .free moves m₀ s₀ = r at hgets hopen hends
  cases hends with
  | unfinished h => exact h.exists_last hlt (hgets.resolve_left fun hne => hne rfl)
  | settled h => exact h.exists_last hlt (hopen _ rfl)
  | lost h _ hturn hbeats => simp at hbeats
  | @stuck n effects m s turn h _ hturn _ hresume =>
    by_cases hnow : m.now < b
    · exact ⟨n, effects, m, s, turn, h, hnow, hturn, hresume ▸ .none⟩
    · exact h.exists_last hlt (Nat.not_lt.1 hnow)

/-- **A run that does not settle before the first rival is cut off by it.**
What has happened by then is what happens without rivals before that
instant. -/
theorem runFrom_lost (hquiet : e.Quiet) (hspares : SparesSignal step e m₀ s₀) (hcalm : e.Calm m₀)
    (hfirst : firstRival ((m₀.withStop stop).seen e.signalled) deadline = some (b, rival))
    (hlt : m₀.now < b) {enough : Nat}
    (hgets : (runFrom step e .free enough m₀ s₀).outcome ≠ .unfinished ∨
      b ≤ (runFrom step e .free enough m₀ s₀).moment.now)
    (hopen : ∀ result, (runFrom step e .free enough m₀ s₀).outcome = .settled result →
      b ≤ (runFrom step e .free enough m₀ s₀).moment.now) :
    ∃ n, ∀ moves, n ≤ moves →
      (runFrom step e (.against deadline) moves (m₀.withStop stop) s₀).outcome = .lost rival ∧
      (runFrom step e (.against deadline) moves (m₀.withStop stop) s₀).moment.now = b ∧
      (runFrom step e (.against deadline) moves (m₀.withStop stop) s₀).effects =
        (runFrom step e .free moves m₀ s₀).effects.filter (·.time < b) := by
  have hrivals := unrivalled_of_first hfirst
  obtain ⟨n, effects, m, s, turn, h, hnow, hturn, hlate⟩ := exists_last hlt hgets hopen
  -- the race makes this last turn too, and does not go on before the rival comes
  have hraced := h.raced hquiet hspares hcalm hrivals hnow
  obtain ⟨resume, hturn', hsame⟩ :=
    hspares.turnAt hquiet hcalm h hrivals.stop hnow hturn
  have hnow' : turn.moment.now < b := (turn_sound hturn).now ▸ hnow
  have hbeats : (Race.against deadline).beats e.signalled
      ⟨turn.effects, turn.moment.withStop stop, resume⟩ = some (b, rival) := by
    refine Race.beats_of_late ?_ hnow' (hsame.late hlate)
    rw [hrivals.first_eq hnow', hfirst]
  refine ⟨n + 1, fun moves hmoves => ?_⟩
  rw [runFrom_eq_iff.2 (.lost hraced hmoves hturn' hbeats)]
  exact ⟨rfl, rfl, (h.effects_before hnow hturn hlate hmoves).symm⟩

end Task

end Amanuensis
