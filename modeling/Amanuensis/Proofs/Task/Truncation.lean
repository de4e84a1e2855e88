import Amanuensis.Proofs.Task.Calm
import Amanuensis.Proofs.Task.Pace
/-!
# Cancelled runs

What the cancellation of the signal at an instant `c` does to a run that
would otherwise be calm. A machine is `Obedient` if it waits for nothing
beyond the cancellation and settles as soon as a wait has been cut short.
Its cancelled run makes the turns of the calm one as long as these end
before `c` (`Reached.stopAt`) and settles at `c` in the turn that does not
(`Reached.settles_at_stop`); `Reached.effects_before` says that nothing else
has happened before `c` in the calm run. That there is such a turn, unless
the machine asks without end, is `Busy.exists_last`.
-/


namespace Amanuensis

namespace Task

variable {σ ε ρ α β : Type}

/-! ## Cutting short -/

/-- The same moment with another signal. -/
def Moment.withStop (m : Moment) (stop : Option Instant) : Moment := { m with stop := stop }

@[simp] theorem Moment.withStop_now (m : Moment) (stop : Option Instant) :
    (m.withStop stop).now = m.now := rfl

@[simp] theorem Moment.withStop_tally (m : Moment) (stop : Option Instant) :
    (m.withStop stop).tally = m.tally := rfl

@[simp] theorem Moment.withStop_heard (m : Moment) (stop : Option Instant) :
    (m.withStop stop).heard = m.heard := rfl

/-- The same moment with a signal that is cancelled from some instant on. -/
def Moment.stopAt (m : Moment) (c : Instant) : Moment := { m with stop := some c }

@[simp] theorem Moment.stopAt_now (m : Moment) (c : Instant) : (m.stopAt c).now = m.now := rfl

@[simp] theorem Moment.stopAt_tally (m : Moment) (c : Instant) : (m.stopAt c).tally = m.tally := rfl

@[simp] theorem Moment.stopAt_heard (m : Moment) (c : Instant) : (m.stopAt c).heard = m.heard := rfl

/-- Before that instant the task does not see it. -/
theorem Moment.stopAt_cancelled {m : Moment} {c : Instant} (hlt : m.now < c) (signalled : Bool) :
    (m.stopAt c).cancelled signalled = false := by
  cases signalled with
  | false => rfl
  | true => exact decide_eq_false (Nat.not_le.2 hlt)

/-- How something ends that is given up at an instant unless it has ended
before. -/
def cutAt (c : Instant) (givenUp : α) : Option (Instant × α) → Instant × α
  | some w => if w.1 < c then w else (c, givenUp)
  | none => (c, givenUp)

theorem cutAt_of_lt {c : Instant} {givenUp : α} {w : Instant × α} (h : w.1 < c) :
    cutAt c givenUp (some w) = w := if_pos h

theorem cutAt_of_le {c : Instant} {givenUp : α} {o : Option (Instant × α)}
    (h : ∀ w, o = some w → c ≤ w.1) : cutAt c givenUp o = (c, givenUp) := by
  cases o with
  | none => rfl
  | some w => exact if_neg (Nat.not_lt.2 (h w rfl))

theorem cutAt_map (c : Instant) (givenUp : α) (f : α → β) (o : Option (Instant × α)) :
    cutAt c (f givenUp) (o.map fun w => (w.1, f w.2)) =
      ((cutAt c givenUp o).1, f (cutAt c givenUp o).2) := by
  cases o with
  | none => rfl
  | some w =>
    simp only [Option.map_some, cutAt]
    split <;> rfl

variable {e : Setting ε} {m : Moment} {c : Instant}

/-- A wait that heeds the signal is cut short by it. -/
theorem Moment.await_stopAt (hlt : m.now < c) (due : Option Instant) :
    (m.stopAt c).await true due true =
      some (cutAt c .cancelled (due.map fun d => (d, .elapsed))) := by
  have hmax : max c m.now = c := Nat.max_eq_left (Nat.le_of_lt hlt)
  cases due with
  | none => simp [Moment.await, Moment.seen, Moment.stopAt, cutAt, hmax]
  | some d =>
    simp only [Moment.await, Moment.seen, Moment.stopAt, cutAt, Option.map_some, if_true, hmax]
    by_cases hd : d < c
    · rw [if_neg (Nat.not_le.2 hd), if_pos hd]
    · rw [if_pos (Nat.not_lt.1 hd), if_neg hd]

/-- A request that heeds the signal is cut short in the same way, from what
the reply answers. -/
theorem Moment.reception_eq_cutAt (hlt : m.now < c) (r : Client.Reply α) :
    (m.stopAt c).reception true true r =
      some (cutAt c none (((m.stopAt c).answer true r).map fun w => (w.1, some w.2))) := by
  unfold Moment.reception
  cases (m.stopAt c).answer true r with
  | none =>
    simp only [Moment.await_stopAt hlt]
    rfl
  | some w =>
    obtain ⟨u, a⟩ := w
    simp only [Moment.await_stopAt hlt, Moment.stopAt_now, Option.map_some, cutAt]
    by_cases hu : u < c
    · simp only [if_pos hu, ite_self]
    · have hne : u ≠ m.now := fun h => hu (h ▸ hlt)
      simp only [if_neg hu, if_neg hne]

/-- Before the cancellation nothing else is answered than what the reply
tells, whether or not the client heeds the signal. -/
theorem Moment.cutAt_answer (hlt : m.now < c) (r : Client.Reply α) :
    cutAt c none (((m.stopAt c).answer true r).map fun w => (w.1, some w.2)) =
      cutAt c none (r.told.map fun w => (due m.now w.1, some w.2)) := by
  have hafter : ∀ d, (m.stopAt c).after d = due m.now d := fun d => rfl
  have hseen : (m.stopAt c).seen true = some c := rfl
  unfold Moment.answer Client.Reply.told
  cases hheeds : r.heeds with
  | true =>
    -- the client gives up at `c` what it has not answered by then
    simp only [Moment.await_stopAt hlt]
    cases r.delay with
    | none => simp [cutAt]
    | some d =>
      simp only [Option.map_some, hafter, hseen, cutAt]
      by_cases hd : due m.now d < c
      · have hmax : max c (due m.now d) = c := Nat.max_eq_left (Nat.le_of_lt hd)
        cases r.ending <;> simp [hd, hmax]
      · cases r.ending <;> simp [hd]
  | false =>
    -- what it answers from `c` on comes too late
    cases r.delay with
    | none => simp [Moment.await, cutAt]
    | some d =>
      have hle : ¬ max c (due m.now d) < c := Nat.not_lt.2 (Nat.le_max_left _ _)
      simp only [Moment.await, Option.map_some, hafter, hseen]
      cases r.ending <;> simp [cutAt, hle]

/-! ## Obedient machines -/

/-- A move that leaves the signal alone and waits for nothing beyond its
cancellation, from which the machine goes on in a state of some kind. -/
def Move.Yields (P : σ → Prop) : Move σ ε ρ → Prop
  | .settle _ => True
  | .report _ _ => True
  | .cancel _ => False
  | .wait _ heeds next => heeds = true ∧ P (next .cancelled)
  | .ask _ heeds next => heeds = true ∧ P (next none)

/-- A machine that leaves the signal alone and settles as soon as one of its
waits has been cut short. -/
def Obedient (step : Instant → Bool → σ → Move σ ε ρ) (result : ρ) : Prop :=
  ∀ now cancelled s,
    (step now cancelled s).Yields fun next => ∀ t, step t true next = .settle result

/-- In a quiet setting requests are sent and events told whatever the signal
is. -/
theorem Setting.sent_withStop {stop : Option Instant} (hquiet : e.Quiet) (q : Client.Request) :
    e.sent (m.withStop stop) q = (e.sent m q).withStop stop := by
  simp only [Setting.sent, Moment.withStop_tally, hquiet.client]
  rfl

theorem Setting.told_withStop {stop : Option Instant} (hquiet : e.Quiet) (event : ε) :
    e.told (m.withStop stop) event = (e.told m event).withStop stop := by
  unfold Setting.told
  split
  · rfl
  · rename_i cancels hl
    simp only [Moment.withStop_heard, hquiet.listener cancels hl]
    rfl

theorem Setting.sent_stopAt (hquiet : e.Quiet) (q : Client.Request) :
    e.sent (m.stopAt c) q = (e.sent m q).stopAt c :=
  Setting.sent_withStop hquiet q

theorem Setting.told_stopAt (hquiet : e.Quiet) (event : ε) :
    e.told (m.stopAt c) event = (e.told m event).stopAt c :=
  Setting.told_withStop hquiet event

/-- **What becomes of a turn.** Up to the moment that it waits it is the same
as without the cancellation; then it waits until `c` at most, and is given
up there. -/
theorem turn_stopAt {P : σ → Prop} {move : Move σ ε ρ} {turn : Turn σ ε} (hquiet : e.Quiet)
    (hsignalled : e.signalled = true) (hstop : m.stop = none) (hlt : m.now < c)
    (hmove : move.Yields P) (hturn : e.turn m move = .ok turn) :
    ∃ givenUp, ((∀ w, turn.resume = some w → c ≤ w.1) → P givenUp) ∧
      e.turn (m.stopAt c) move =
        .ok ⟨turn.effects, turn.moment.stopAt c, some (cutAt c givenUp turn.resume)⟩ := by
  have hcalm : e.Calm m := fun _ => ⟨hquiet, hstop⟩
  cases move with
  | settle result => cases hturn
  | cancel next => exact hmove.elim
  | report event next =>
    rw [turn_report] at hturn ⊢
    cases hturn
    refine ⟨next, fun h => absurd (h _ rfl) (Nat.not_le.2 hlt), ?_⟩
    rw [Setting.told_stopAt hquiet, cutAt_of_lt hlt]
    rfl
  | wait span heeds next =>
    obtain ⟨rfl, hP⟩ := hmove
    refine ⟨next .cancelled, fun _ => hP, ?_⟩
    have hawait := hcalm.await (span.map m.after) true
    simp only [Setting.turn, hawait] at hturn
    cases hturn
    rw [cutAt_map, Setting.turn, hsignalled, Moment.await_stopAt hlt]
    rfl
  | ask q heeds next =>
    obtain ⟨rfl, hP⟩ := hmove
    refine ⟨next none, fun _ => hP, ?_⟩
    rw [hcalm.turn_ask] at hturn
    cases hturn
    have hsent : (e.sent m q).now < c := by rwa [Setting.sent_now]
    rw [turn_ask (by rw [Moment.stopAt_cancelled hlt, Bool.and_false]), Setting.sent_stopAt hquiet,
      hsignalled, Moment.reception_eq_cutAt hsent, Moment.cutAt_answer hsent, Setting.sent_now]
    have hnext := cutAt_map c none next
      ((e.client.reply m.tally q).told.map fun w => (due m.now w.1, some w.2))
    rw [Option.map_map] at hnext
    rw [Option.map_some, Moment.stopAt_tally, ← hnext]
    rfl

/-! ## Cancelled runs of obedient machines -/

variable {step : Instant → Bool → σ → Move σ ε ρ} {race : Race} {result : ρ} {turn : Turn σ ε}
variable {m₀ : Moment} {s₀ s : σ} {n : Nat} {effects : List (Effect ε)}

theorem Obedient.neverCancels (h : Obedient step result) : NeverCancels step := by
  intro now cancelled s next heq
  have hyields := h now cancelled s
  rw [heq] at hyields
  exact hyields

/-- The turn at a place before the cancellation. -/
theorem Obedient.turnAt_stopAt (h : Obedient step result) (hcalm : e.Calm m)
    (hsignalled : e.signalled = true) (hlt : m.now < c) (hturn : e.turnAt step m s = .ok turn) :
    ∃ givenUp, ((∀ w, turn.resume = some w → c ≤ w.1) → ∀ t, step t true givenUp = .settle result) ∧
      e.turnAt step (m.stopAt c) s =
        .ok ⟨turn.effects, turn.moment.stopAt c, some (cutAt c givenUp turn.resume)⟩ := by
  obtain ⟨hquiet, hstop⟩ := hcalm hsignalled
  rw [hcalm.turnAt] at hturn
  rw [Setting.turnAt, Moment.stopAt_cancelled hlt]
  exact turn_stopAt hquiet hsignalled hstop hlt (h _ _ _) hturn

/-- **Before the cancellation the runs are the same.** -/
theorem Reached.stopAt (hobedient : Obedient step result) (hcalm : e.Calm m₀)
    (hsignalled : e.signalled = true) (h : Reached step e .free m₀ s₀ n effects m s)
    (hlt : m.now < c) : Reached step e .free (m₀.stopAt c) s₀ n effects (m.stopAt c) s := by
  induction h with
  | start => exact .start
  | @move n effects m s turn t next h hturn _ hresume ih =>
    have hnow : m.now < c := Nat.lt_of_le_of_lt ((turn_sound hturn).le_resume _ hresume) hlt
    obtain ⟨givenUp, -, hcut⟩ :=
      hobedient.turnAt_stopAt (h.calm hobedient.neverCancels hcalm) hsignalled hnow hturn
    have hresume' : cutAt c givenUp turn.resume = (t, next) := by
      rw [hresume]
      exact cutAt_of_lt hlt
    exact (ih hnow).free_move hcut (congrArg some hresume')

/-- A run that settles before the cancellation settles all the same. -/
theorem Reached.settles_before_stop {settled : ρ} (hobedient : Obedient step result)
    (hcalm : e.Calm m₀) (hsignalled : e.signalled = true)
    (h : Reached step e .free m₀ s₀ n effects m s) (hlt : m.now < c)
    (hturn : e.turnAt step m s = .error settled) :
    Reached step e .free (m₀.stopAt c) s₀ n effects (m.stopAt c) s ∧
      e.turnAt step (m.stopAt c) s = .error settled := by
  refine ⟨h.stopAt hobedient hcalm hsignalled hlt, ?_⟩
  rw [(h.calm hobedient.neverCancels hcalm).turnAt] at hturn
  rw [Setting.turnAt, Moment.stopAt_cancelled hlt, Moment.stopAt_now, turn_eq_error hturn]
  rfl

/-- **The turn that does not end before the cancellation is the last one.** -/
theorem Reached.settles_at_stop (hobedient : Obedient step result) (hcalm : e.Calm m₀)
    (hsignalled : e.signalled = true) (h : Reached step e .free m₀ s₀ n effects m s)
    (hlt : m.now < c) (hturn : e.turnAt step m s = .ok turn)
    (hlast : ∀ w, turn.resume = some w → c ≤ w.1) :
    ∃ next, Reached step e .free (m₀.stopAt c) s₀ (n + 1) (effects ++ turn.effects)
        ((turn.moment.stopAt c).goto c) next ∧
      e.turnAt step ((turn.moment.stopAt c).goto c) next = .error result := by
  obtain ⟨givenUp, hsettles, hcut⟩ :=
    hobedient.turnAt_stopAt (h.calm hobedient.neverCancels hcalm) hsignalled hlt hturn
  refine ⟨givenUp, (h.stopAt hobedient hcalm hsignalled hlt).free_move hcut ?_, ?_⟩
  · exact congrArg some (cutAt_of_le hlast)
  · have hcancelled : ((turn.moment.stopAt c).goto c).cancelled e.signalled = true := by
      rw [hsignalled]
      exact decide_eq_true (Nat.le_refl c)
    rw [Setting.turnAt, hcancelled, hsettles hlast]
    rfl

/-- **And before the cancellation nothing happens that the cancelled run
misses.** -/
theorem Reached.effects_before (h : Reached step e .free m₀ s₀ n effects m s) (hlt : m.now < c)
    (hturn : e.turnAt step m s = .ok turn) (hlast : ∀ w, turn.resume = some w → c ≤ w.1)
    {moves : Nat} (hmoves : n < moves) :
    (runFrom step e .free moves m₀ s₀).effects.filter (fun x => x.time < c) =
      effects ++ turn.effects := by
  have hearly : (effects ++ turn.effects).filter (fun x => decide (x.time < c)) =
      effects ++ turn.effects := by
    refine List.filter_eq_self.2 fun x hx => decide_eq_true ?_
    rcases List.mem_append.1 hx with hx | hx
    · exact Nat.lt_of_le_of_lt (h.time_le x hx).2 hlt
    · rw [(turn_sound hturn).time x hx]
      exact hlt
  rw [h.runFrom_of_lt hmoves]
  cases hresume : turn.resume with
  | none => rwa [runFrom_of_stuck _ hturn (Race.beats_free _ _) hresume]
  | some w =>
    rw [runFrom_of_resume _ hturn (Race.beats_free _ _) hresume, Record.after_after]
    change List.filter _ (effects ++ turn.effects ++ _) = _
    rw [List.filter_append, hearly, List.filter_eq_nil_iff.2, List.append_nil]
    -- the rest of the run begins at `c` or after it
    intro x hx hbefore
    have hle : w.1 ≤ x.time := le_time_of_mem_runFrom hx
    exact absurd (of_decide_eq_true hbefore) (Nat.not_lt.2 (Nat.le_trans (hlast w hresume) hle))

/-! ## Runs that reach the cancellation -/

variable {left : σ → Nat} {most : Nat}

/-- A run that is over has made finitely many requests. -/
theorem exists_requests_le {moves : Nat}
    (hover : (runFrom step e race moves m₀ s₀).outcome ≠ .unfinished) (c : Instant) :
    ∃ most, ∀ moves,
      ((requestsOf (runFrom step e race moves m₀ s₀).effects).filter (·.2 < c)).length ≤ most := by
  refine ⟨(runFrom step e race moves m₀ s₀).effects.length, fun more => ?_⟩
  have hprefix : (runFrom step e race more m₀ s₀).effects <+:
      (runFrom step e race (moves + more) m₀ s₀).effects :=
    runFrom_effects_prefix (Nat.le_add_left _ _)
  rw [runFrom_eq_of_le (Nat.le_add_right _ _) hover] at hprefix
  calc _ ≤ (requestsOf (runFrom step e race more m₀ s₀).effects).length := List.length_filter_le _ _
    _ ≤ (runFrom step e race more m₀ s₀).effects.length := List.length_filterMap_le _ _
    _ ≤ _ := hprefix.length_le

/-- **A busy machine gets to an instant** before which it makes finitely many
requests, unless it settles before: one of its turns is the last that begins
before it. -/
theorem Busy.exists_last (hbusy : Busy step left most) (hlt : m₀.now < c)
    (hfinite : ∃ most, ∀ moves,
      ((requestsOf (runFrom step e .free moves m₀ s₀).effects).filter (·.2 < c)).length ≤ most)
    (hopen : ∀ n effects m s settled, Reached step e .free m₀ s₀ n effects m s →
      e.turnAt step m s = .error settled → c ≤ m.now) :
    ∃ n effects m s turn, Reached step e .free m₀ s₀ n effects m s ∧ m.now < c ∧
      e.turnAt step m s = .ok turn ∧ ∀ w, turn.resume = some w → c ≤ w.1 := by
  refine Classical.byContradiction fun hnone => ?_
  obtain ⟨bound, hbound⟩ := hfinite
  have hnext : ∀ n effects m s, Reached step e .free m₀ s₀ n effects m s → m.now < c →
      ∃ turn t next, e.turnAt step m s = .ok turn ∧ turn.resume = some (t, next) ∧
        (turn.moment.goto t).now < c := by
    intro n effects m s h hnow
    cases hturn : e.turnAt step m s with
    | error settled => exact absurd (hopen _ _ _ _ _ h hturn) (Nat.not_le.2 hnow)
    | ok turn =>
      refine Classical.byContradiction fun hw => hnone ⟨n, effects, m, s, turn, h, hnow, hturn, ?_⟩
      exact fun w hresume => Nat.not_lt.1 fun hlt => hw ⟨turn, w.1, w.2, rfl, hresume, hlt⟩
  -- so many moves before `c` need more requests than there are
  obtain ⟨effects, m, s, h, hnow⟩ := exists_reached hlt hnext (left s₀ + (most + 1) * bound + 1)
  have hmoves := hbusy.moves_le h
  have hrequests : (requestsOf effects).length ≤ bound := by
    have hrun := h.runFrom_add 0
    have hle := hbound (left s₀ + (most + 1) * bound + 1)
    rw [Nat.add_zero] at hrun
    rw [hrun] at hle
    have hall : (requestsOf effects).filter (fun q => decide (q.2 < c)) = requestsOf effects :=
      List.filter_eq_self.2 fun q hq => decide_eq_true (Nat.lt_of_le_of_lt (h.request_le hq) hnow)
    simpa [runFrom, Record.after, hall] using hle
  have := Nat.mul_le_mul_left (most + 1) hrequests
  omega

end Task

end Amanuensis
