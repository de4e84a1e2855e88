import Amanuensis.Proofs.Research.Schedule
import Amanuensis.Proofs.Research.Telling
/-!
# Scenarios without their failures

Requests that fail on the way are repeated within their slot, and leave no
trace in it. `Spares` says of a script that it is the script of a scenario
without its failures. If all slots of the scenario get to an answer, the slots
of both correspond one to one: slot `k + 1` asks once in the second and is
answered the same (`Asks.spared`, `Asks.of_spared`), at an instant that is
earlier by the time that the failures before it took. The failures of one slot
are none of another (`Settled.asks_after`).
-/


namespace Amanuensis

namespace Research

namespace Poll

open Amanuensis.Task

namespace Scenario

/-- How much time the failures before a request take: each until it comes, and
the delay after it. -/
def lost (c : Scenario) : Nat → Nat
  | 0 => 0
  | q + 1 =>
    match c.script q with
    | some (d, .error (.network _)) => lost c q + (d + c.options.retryDelay.nanos)
    | _ => lost c q

/-- A script is the script of a scenario without its failures: each other
answer stands as far behind as there are such answers before it. -/
def Spares (c : Scenario) (script : Script) : Prop :=
  ∀ q, ¬ c.Fails q → script (c.settledBefore q) = c.script q

/-- The same scenario with other answers. -/
abbrev told (c : Scenario) (script : Script) : Scenario := { c with script }

/-- No slot has more failures than may be repeated. -/
def Tolerable (c : Scenario) : Prop :=
  ∀ k q t message, ¬ c.Answered k c.options.maxRetries.toNat q t (.error (.network message))

/-- No slot finds the budget used up. -/
def InTime (c : Scenario) : Prop := ∀ k q t, c.Settled k q t → c.InBudget t

variable {c : Scenario} {script : Script} {k f q q' : Nat} {r r' t t' : Instant}
variable {a : Except Client.Error State} {message : String} {d lost : Nat}

/-! ## The script without failures -/

theorem settledBefore_of_fails (h : c.Fails q) :
    c.settledBefore (q + 1) = c.settledBefore q := by
  obtain ⟨d, message, hscript⟩ := h
  simp only [settledBefore, hscript]

theorem settledBefore_of_not_fails (h : ¬ c.Fails q) :
    c.settledBefore (q + 1) = c.settledBefore q + 1 := by
  rw [settledBefore]
  split
  · rename_i d message hscript
    exact absurd ⟨d, message, hscript⟩ h
  · rfl

theorem settledBefore_mono (h : q ≤ q') : c.settledBefore q ≤ c.settledBefore q' := by
  induction h with
  | refl => exact Nat.le_refl _
  | @step q' _ ih =>
    refine Nat.le_trans ih ?_
    by_cases hfails : c.Fails q'
    · exact Nat.le_of_eq (settledBefore_of_fails hfails).symm
    · rw [settledBefore_of_not_fails hfails]
      exact Nat.le_succ _

/-- No two answers that are no failures have the same place. -/
theorem settledBefore_injective (h : ¬ c.Fails q) (h' : ¬ c.Fails q')
    (heq : c.settledBefore q = c.settledBefore q') : q = q' := by
  have hlt : ∀ {p p'}, ¬ c.Fails p → p < p' → c.settledBefore p < c.settledBefore p' := by
    intro p p' hp hlt
    refine Nat.lt_of_lt_of_le ?_ (settledBefore_mono hlt)
    rw [settledBefore_of_not_fails hp]
    exact Nat.lt_succ_self _
  obtain hbefore | hsame | hafter := Nat.lt_trichotomy q q'
  · exact absurd heq (Nat.ne_of_lt (hlt h hbefore))
  · exact hsame
  · exact absurd heq.symm (Nat.ne_of_lt (hlt h' hafter))

open Classical in
/-- **Every script has one without its failures.** -/
theorem exists_spares (c : Scenario) : ∃ script, c.Spares script := by
  refine ⟨fun k => if h : ∃ q, ¬ c.Fails q ∧ c.settledBefore q = k then c.script h.choose else none,
    fun q hq => ?_⟩
  have hplace : ∃ q', ¬ c.Fails q' ∧ c.settledBefore q' = c.settledBefore q := ⟨q, hq, rfl⟩
  obtain ⟨hchosen, heq⟩ := hplace.choose_spec
  refine (dif_pos hplace).trans ?_
  rw [settledBefore_injective hchosen hq heq]

theorem lost_of_not_fails (h : ¬ c.Fails q) : c.lost (q + 1) = c.lost q := by
  rw [Scenario.lost]
  split
  · rename_i d message hscript
    exact absurd ⟨d, message, hscript⟩ h
  · rfl

theorem lost_of_fails (h : c.script q = some (d, .error (.network message))) :
    c.lost (q + 1) = c.lost q + (d + c.options.retryDelay.nanos) := by
  simp only [Scenario.lost, h]

end Scenario

/-! ## Instants that are later -/

/-- An instant is later than another one by some time, as far as the clock
tells instants. -/
def Later (lost : Nat) (t t' : Instant) : Prop := t' + lost < clockReach → t = t' + lost

variable {lost d delay : Nat} {t t' : Instant}

theorem Later.refl (t : Instant) : Later 0 t t := fun _ => rfl

/-- What begins later ends later. -/
theorem Later.due (h : Later lost t t') (span : Nat) : Later lost (due t span) (due t' span) := by
  intro hreach
  have ht : t = t' + lost :=
    h (Nat.lt_of_le_of_lt (Nat.add_le_add_right (le_due t' span) lost) hreach)
  by_cases hspan : t' + span < clockReach
  · have hsum : t + span = t' + span + lost := by rw [ht, Nat.add_right_comm]
    rw [due_of_lt hspan] at hreach ⊢
    rw [due_of_lt (hsum ▸ hreach), hsum]
  · have hbeyond := Nat.not_lt.1 hspan
    have hbeyond' : clockReach ≤ t + span :=
      Nat.le_trans hbeyond (Nat.add_le_add_right (ht ▸ Nat.le_add_right t' lost) span)
    rw [due_of_le hbeyond, due_of_le hbeyond', ht, Nat.add_right_comm]

/-- A failure and the delay after it make the one poll later, while the other
stands where it does. -/
theorem Later.lose (h : Later lost t t') (d delay : Nat) :
    Later (lost + (d + delay)) (Task.due (Task.due t d) delay) t' := by
  intro hreach
  have hsum : t' + (lost + (d + delay)) = t' + lost + d + delay := by simp only [Nat.add_assoc]
  rw [hsum] at hreach ⊢
  have hfailed : t' + lost + d < clockReach := Nat.lt_of_le_of_lt (Nat.le_add_right _ _) hreach
  have ht : t = t' + lost := h (Nat.lt_of_le_of_lt (Nat.le_add_right _ _) hfailed)
  rw [ht, due_of_lt hfailed, due_of_lt hreach]

namespace Scenario

variable {c : Scenario} {script : Script} {k f n q q' : Nat} {r r' : Instant}
variable {a : Except Client.Error State}

/-! ## From the poll with failures to the one without -/

/-- **What a slot asks, it asks once without the failures.** A request of slot
`k + 1` has the one request of that slot in the other poll, at an instant that
lacks the time lost by then. -/
theorem Asks.spared (hspares : c.Spares script) (htime : (c.told script).InTime)
    (h : c.Asks k f q r) :
    ∃ r', (c.told script).Asks k 0 k r' ∧ Later (c.lost q) r r' := by
  induction h with
  | first => exact ⟨_, .first (htime _ _ _ .none), .refl _⟩
  | @next k f q r d s hasks hscript hrunning _ ih =>
    obtain ⟨r', hasks', hlater⟩ := ih
    have hanswers : ¬ c.Fails q := by
      rintro ⟨_, _, hfails⟩
      cases hscript.symm.trans hfails
    have hscript' : script k = some (d, .ok s) := by
      rw [← hasks.askedAt_eq.2, hspares q hanswers, hscript]
    have hsettled : (c.told script).Settled (k + 1) (k + 1) (due r' d) :=
      .slot ⟨r', d, hasks', hscript', rfl⟩ hrunning
    refine ⟨_, hsettled.asks (htime _ _ _ hsettled), ?_⟩
    rw [lost_of_not_fails hanswers]
    exact (hlater.due d).due _
  | @again k f q r d message _ hscript _ ih =>
    -- the other poll stutters
    obtain ⟨r', hasks', hlater⟩ := ih
    refine ⟨r', hasks', ?_⟩
    rw [lost_of_fails hscript]
    exact hlater.lose d _

/-- A slot of a tolerable poll has failed no more often than may be repeated. -/
theorem Asks.le_of_tolerable (htolerable : c.Tolerable) (h : c.Asks k f q r) :
    f ≤ c.options.maxRetries.toNat := by
  induction h with
  | first => exact Nat.zero_le _
  | next => exact Nat.zero_le _
  | @again k f q r d message hasks hscript _ ih =>
    refine Nat.lt_of_le_of_ne ih fun hlast => ?_
    subst hlast
    exact htolerable k q _ message ⟨r, d, hasks, hscript, rfl⟩

/-- It gets to a request that does not fail. -/
theorem Asks.patient {f q : Nat} {r : Instant} (htolerable : c.Tolerable) (h : c.Asks k f q r) :
    ∃ f q r, c.Asks k f q r ∧ ¬ c.Fails q := by
  by_cases hfails : c.Fails q
  · obtain ⟨d, message, hscript⟩ := hfails
    have hmay : f < c.options.maxRetries.toNat := by
      refine Nat.lt_of_le_of_ne (h.le_of_tolerable htolerable) fun hlast => ?_
      subst hlast
      exact htolerable k q _ message ⟨r, d, h, hscript, rfl⟩
    exact (Asks.again h hscript (.inr hmay)).patient htolerable
  · exact ⟨f, q, r, h, hfails⟩
termination_by c.options.maxRetries.toNat - f

/-! ## And back -/

/-- A request is made at one instant only. -/
theorem Asks.instant_eq {f' : Nat} {k' : Nat} (h : c.Asks k f q r) (h' : c.Asks k' f' q r') :
    r = r' :=
  Option.some.inj (h.askedAt_eq.1.symm.trans h'.askedAt_eq.1)

/-- **The poll without failures asks once in each slot**, and the other poll
gets to a request of that slot that does not fail. -/
theorem Asks.of_spared (hspares : c.Spares script) (htolerable : c.Tolerable) (hin : c.InTime)
    (htime : (c.told script).InTime) (h : (c.told script).Asks k f q' r') :
    f = 0 ∧ q' = k ∧
      ∃ f q r, c.Asks k f q r ∧ ¬ c.Fails q ∧ Later (c.lost q) r r' := by
  have hback : ∀ {k f q r r'}, c.Asks k f q r → (c.told script).Asks k 0 k r' →
      ∃ f q r, c.Asks k f q r ∧ ¬ c.Fails q ∧ Later (c.lost q) r r' := by
    intro k f q r r' hasks hasks'
    obtain ⟨f, q, r, hasks, hanswers⟩ := hasks.patient htolerable
    obtain ⟨r'', hasks'', hlater⟩ := hasks.spared hspares htime
    obtain rfl := hasks''.instant_eq hasks'
    exact ⟨f, q, r, hasks, hanswers, hlater⟩
  -- by induction in the poll without failures: its slots have been asked once so far
  induction h with
  | first hbudget =>
    exact ⟨rfl, rfl, hback (.first (hin _ _ _ .none)) (.first hbudget)⟩
  | @next k f q' r' d s hasks' hscript' hrunning hbudget ih =>
    obtain ⟨rfl, rfl, f, q, r, hasks, hanswers, -⟩ := ih
    have hscript : c.script q = some (d, .ok s) := by
      rw [← hspares q hanswers, hasks.askedAt_eq.2]
      exact hscript'
    have hsettled : c.Settled (q' + 1) (q + 1) (due r d) :=
      .slot ⟨r, d, hasks, hscript, rfl⟩ hrunning
    exact ⟨rfl, rfl, hback (hsettled.asks (hin _ _ _ hsettled))
      (.next hasks' hscript' hrunning hbudget)⟩
  | @again k f q' r' d message _ hscript' _ ih =>
    obtain ⟨rfl, rfl, f, q, r, hasks, hanswers, -⟩ := ih
    refine absurd ⟨d, message, ?_⟩ hanswers
    rw [← hspares q hanswers, hasks.askedAt_eq.2]
    exact hscript'

/-! ## Answers -/

/-- An answer that is no failure on the way. -/
def Arrives (a : Except Client.Error State) : Prop := ∀ message, a ≠ .error (.network message)

theorem Answered.not_fails (h : c.Answered k f q t a) (ha : Arrives a) : ¬ c.Fails q := by
  rintro ⟨d, message, hfails⟩
  obtain ⟨r, d', -, hscript, -⟩ := h
  rw [hscript] at hfails
  exact ha message (congrArg Prod.snd (Option.some.inj hfails))

/-- **A slot is answered the same without the failures**, -/
theorem Answered.spared (hspares : c.Spares script) (htime : (c.told script).InTime)
    (h : c.Answered k f q t a) (ha : Arrives a) :
    ∃ t', (c.told script).Answered k 0 k t' a ∧ Later (c.lost (q + 1)) t t' := by
  have hanswers := h.not_fails ha
  obtain ⟨r, d, hasks, hscript, rfl⟩ := h
  obtain ⟨r', hasks', hlater⟩ := hasks.spared hspares htime
  have hscript' : script k = some (d, a) := by
    rw [← hasks.askedAt_eq.2, hspares q hanswers, hscript]
  refine ⟨_, ⟨r', d, hasks', hscript', rfl⟩, ?_⟩
  rw [lost_of_not_fails hanswers]
  exact hlater.due d

/-- and in no other way. -/
theorem Answered.of_spared (hspares : c.Spares script) (htolerable : c.Tolerable) (hin : c.InTime)
    (htime : (c.told script).InTime) (h : (c.told script).Answered k f q' t' a) :
    f = 0 ∧ q' = k ∧ Arrives a ∧ ∃ f q t, c.Answered k f q t a ∧ Later (c.lost (q + 1)) t t' := by
  obtain ⟨r', d, hasks', hscript', rfl⟩ := h
  obtain ⟨rfl, rfl, f, q, r, hasks, hanswers, hlater⟩ :=
    hasks'.of_spared hspares htolerable hin htime
  have hscript : c.script q = some (d, a) := by
    rw [← hspares q hanswers, hasks.askedAt_eq.2]
    exact hscript'
  refine ⟨rfl, rfl, ?_, f, q, _, ⟨r, d, hasks, hscript, rfl⟩, ?_⟩
  · rintro message rfl
    exact hanswers ⟨d, message, hscript⟩
  · rw [lost_of_not_fails hanswers]
    exact hlater.due d

/-- **The slots that settle are the same ones.** -/
theorem Settled.spared (hspares : c.Spares script) (htime : (c.told script).InTime)
    (h : c.Settled k q t) : ∃ t', (c.told script).Settled k k t' ∧ Later (c.lost q) t t' := by
  cases h with
  | none => exact ⟨_, .none, .refl _⟩
  | slot h hrunning =>
    obtain ⟨t', h', hlater⟩ := h.spared hspares htime nofun
    exact ⟨t', .slot h' hrunning, hlater⟩

theorem Settled.of_spared (hspares : c.Spares script) (htolerable : c.Tolerable) (hin : c.InTime)
    (htime : (c.told script).InTime) (h : (c.told script).Settled k q' t') :
    q' = k ∧ ∃ q t, c.Settled k q t ∧ Later (c.lost q) t t' := by
  cases h with
  | none => exact ⟨rfl, 0, _, .none, .refl _⟩
  | slot h hrunning =>
    obtain ⟨-, rfl, -, f, q, t, h', hlater⟩ := h.of_spared hspares htolerable hin htime
    exact ⟨rfl, q + 1, t, .slot h' hrunning, hlater⟩

/-! ## What answers bring about -/

/-- The same result at another time. -/
def retimed (elapsed : Duration) : Except Failure Finding → Except Failure Finding
  | .ok finding => .ok { finding with elapsed }
  | .error failure => .error failure

/-- What decides a tolerable poll is an answer, and it decides every poll that
is answered so in the same slot. -/
theorem Decides.arrives (htolerable : c.Tolerable) {result : Except Failure Finding}
    (h : c.Decides n t result) :
    ∃ k f q a, n = q + 1 ∧ c.Answered k f q t a ∧ Arrives a ∧
      ∀ (c' : Scenario) f' q' t', c'.Answered k f' q' t' a →
        c'.Decides (q' + 1) t' (retimed (.ofNanos (t' - c'.startedAt)) result) := by
  cases h with
  | completed ha hs hr =>
    exact ⟨_, _, _, _, rfl, ha, nofun, fun _ _ _ _ ha' => .completed ha' hs hr⟩
  | incomplete ha hs hr =>
    exact ⟨_, _, _, _, rfl, ha, nofun, fun _ _ _ _ ha' => .incomplete ha' hs hr⟩
  | failed ha hs he => exact ⟨_, _, _, _, rfl, ha, nofun, fun _ _ _ _ ha' => .failed ha' hs he⟩
  | failedSilently ha hs he =>
    exact ⟨_, _, _, _, rfl, ha, nofun, fun _ _ _ _ ha' => .failedSilently ha' hs he⟩
  | cancelled ha => exact ⟨_, _, _, _, rfl, ha, nofun, fun _ _ _ _ ha' => .cancelled ha'⟩
  | refused ha hcancelled hnetwork =>
    refine ⟨_, _, _, _, rfl, ha, ?_, fun _ _ _ _ ha' => .refused ha' hcancelled hnetwork⟩
    rintro message ⟨⟩
    cases hnetwork
  | exhausted _ ha =>
    -- no slot of a tolerable poll runs out of requests
    exact absurd ha (htolerable _ _ _ _)

/-- And so does an answer tell its event. -/
theorem Tells.arrives (htolerable : c.Tolerable) {event : Event} (h : c.Tells k event t) :
    ∃ f q s, c.Answered k f q t (.ok s) ∧
      ∀ (c' : Scenario) f' q' t', c'.Answered k f' q' t' (.ok s) →
        c'.Tells k { event with elapsed := .ofNanos (t' - c'.startedAt) } t' := by
  cases h with
  | told ha => exact ⟨_, _, _, ha, fun _ _ _ _ ha' => .told ha'⟩
  | exhausted _ ha => exact absurd ha (htolerable _ _ _ _)

/-- A poll that has been told no failures is tolerable. -/
theorem Tolerable.of_spared (hspares : c.Spares script) (htolerable : c.Tolerable) (hin : c.InTime)
    (htime : (c.told script).InTime) : (c.told script).Tolerable := by
  intro k q t message h
  obtain ⟨-, -, ha, -⟩ := h.of_spared hspares htolerable hin htime
  exact ha message rfl

theorem Answered.place (h : c.Answered k f q t a) (ha : Arrives a) :
    c.settledBefore (q + 1) = k + 1 := by
  obtain ⟨r, d, hasks, -⟩ := id h
  rw [settledBefore_of_not_fails (h.not_fails ha), hasks.askedAt_eq.2]

/-- **What decides the poll decides it without the failures**, -/
theorem Decides.spared (hspares : c.Spares script) (htolerable : c.Tolerable)
    (htime : (c.told script).InTime) {result : Except Failure Finding} (h : c.Decides n t result) :
    ∃ t', Later (c.lost n) t t' ∧ (c.told script).Decides (c.settledBefore n) t'
      (retimed (.ofNanos (t' - c.startedAt)) result) := by
  obtain ⟨k, f, q, a, rfl, ha, harrives, hdecides⟩ := h.arrives htolerable
  obtain ⟨t', ha', hlater⟩ := ha.spared hspares htime harrives
  rw [ha.place harrives]
  exact ⟨t', hlater, hdecides _ _ _ _ ha'⟩

/-- and nothing else does. -/
theorem Decides.of_spared (hspares : c.Spares script) (htolerable : c.Tolerable) (hin : c.InTime)
    (htime : (c.told script).InTime) {result : Except Failure Finding}
    (h : (c.told script).Decides n t' result) :
    ∃ q t, n = c.settledBefore q ∧ Later (c.lost q) t t' ∧
      c.Decides q t (retimed (.ofNanos (t - c.startedAt)) result) := by
  have htolerable' := htolerable.of_spared hspares hin htime
  obtain ⟨k, f', q', a, rfl, ha', -, hdecides⟩ := h.arrives htolerable'
  obtain ⟨-, rfl, harrives, f, q, t, ha, hlater⟩ := ha'.of_spared hspares htolerable hin htime
  exact ⟨q + 1, t, (ha.place harrives).symm, hlater, hdecides _ _ _ _ ha⟩

/-- **The events are told without the failures**, -/
theorem Tells.spared (hspares : c.Spares script) (htolerable : c.Tolerable)
    (htime : (c.told script).InTime) {event : Event} (h : c.Tells k event t) :
    ∃ f q s t', c.Answered k f q t (.ok s) ∧ Later (c.lost q) t t' ∧
      (c.told script).Tells k { event with elapsed := .ofNanos (t' - c.startedAt) } t' := by
  obtain ⟨f, q, s, ha, htells⟩ := h.arrives htolerable
  obtain ⟨t', ha', hlater⟩ := ha.spared hspares htime nofun
  rw [lost_of_not_fails (ha.not_fails nofun)] at hlater
  exact ⟨f, q, s, t', ha, hlater, htells _ _ _ _ ha'⟩

/-- and no others are. -/
theorem Tells.of_spared (hspares : c.Spares script) (htolerable : c.Tolerable) (hin : c.InTime)
    (htime : (c.told script).InTime) {event : Event} (h : (c.told script).Tells k event t') :
    ∃ f q s t, c.Answered k f q t (.ok s) ∧ Later (c.lost q) t t' ∧
      c.Tells k { event with elapsed := .ofNanos (t - c.startedAt) } t := by
  have htolerable' := htolerable.of_spared hspares hin htime
  obtain ⟨f', q', s, ha', htells⟩ := h.arrives htolerable'
  obtain ⟨-, rfl, harrives, f, q, t, ha, hlater⟩ := ha'.of_spared hspares htolerable hin htime
  rw [lost_of_not_fails (ha.not_fails harrives)] at hlater
  exact ⟨f, q, s, t, ha, hlater, htells _ _ _ _ ha⟩

/-! ## No failure is carried over -/

/-- **Each slot may have as many failures as the options allow**, however many
there were before it. -/
theorem Settled.asks_after (hsettled : c.Settled k q t) (hbudget : c.InBudget t)
    (hf : f ≤ c.options.maxRetries.toNat) (hfails : ∀ j < f, c.Fails (q + j)) :
    ∃ r, c.Asks k f (q + f) r := by
  induction f with
  | zero => exact ⟨_, hsettled.asks hbudget⟩
  | succ f ih =>
    obtain ⟨r, hasks⟩ := ih (Nat.le_of_succ_le hf) fun j hj => hfails j (Nat.lt_succ_of_lt hj)
    obtain ⟨d, message, hscript⟩ := hfails f (Nat.lt_succ_self f)
    exact ⟨_, .again hasks hscript (.inr hf)⟩

end Scenario

end Poll

end Research

end Amanuensis
