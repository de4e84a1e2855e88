import Amanuensis.Proofs.Research.Spared
import Amanuensis.Proofs.Research.Waits
/-!
# Polls without their failures

Of a poll whose slots all get to an answer, and of the poll that is told the
same answers without the failures between them: both return the same, tell the
same events and back off by the same intervals, only at instants that are later
in the first by the time that the failures took (`retries_transparent`). As no
slot looks at the failures of another, a poll gets over any number of them
(`unsteadily_settles`).

Later by exactly that time they are as far as the clock tells: a delay beyond
its reach lasts thirty years. And a signal that is cancelled in the meantime
may find the one poll at its end and the other not (`retries_seen`).
-/


namespace Amanuensis

namespace Research

namespace Poll

open Amanuensis.Task

/-! ## Two polls -/

open Scenario

/-- A poll does not come to the end of its time budget. -/
def KeepsBudget (e : Setting Event) (o : Options) (jobId : String) (m : Moment) : Prop :=
  ∀ q t elapsed count,
    ¬ SettlesAs e o jobId m q t (.error (.pollingTimeout elapsed count))

variable {e : Setting Event} {o : Options} {jobId : String} {m : Moment} {q : Nat}
variable {result : Except Failure Finding}

/-- Such a poll begins every slot in its budget. -/
theorem KeepsBudget.inTime (hcalm : e.Calm m) (h : KeepsBudget e o jobId m) :
    (scenario e o jobId m).InTime := by
  intro k q t hsettled
  refine Decidable.by_contra fun hover => ?_
  exact h q t _ (.ofNat k) ((settlesAs_iff hcalm).2 (.outOfTime hsettled hover))

/-- It returns by the answer that decides it. -/
theorem KeepsBudget.decides (hcalm : e.Calm m) (h : KeepsBudget e o jobId m)
    (hsettles : SettlesAs e o jobId m q t result) :
    (scenario e o jobId m).Decides q t result := by
  cases (settlesAs_iff hcalm).1 hsettles with
  | decided h => exact h
  | outOfTime hsettled hover => exact absurd (h.inTime hcalm _ _ _ hsettled) hover

/-- A poll that has settled for another result keeps to its budget. -/
theorem KeepsBudget.of_settles (moves : Nat)
    (h : ((poll o jobId m.now).run e .free moves m).outcome = .settled result)
    (hresult : ∀ elapsed count, result ≠ .error (.pollingTimeout elapsed count)) :
    KeepsBudget e o jobId m := by
  rintro q t elapsed count ⟨moves', houtcome, -, -⟩
  have hover : ((poll o jobId m.now).run e .free moves m).outcome ≠ .unfinished := by
    rw [h]
    nofun
  have hover' : ((poll o jobId m.now).run e .free moves' m).outcome ≠ .unfinished := by
    rw [houtcome]
    nofun
  have hsame : (poll o jobId m.now).run e .free moves m =
      (poll o jobId m.now).run e .free moves' m := runFrom_eq_of_over hover hover'
  rw [hsame, houtcome] at h
  exact hresult elapsed count (Outcome.settled.inj h).symm

/-- What is the same of a poll in two settings, the second without the failures
of the first: all but the instants. -/
structure Transparent (e e' : Setting Event) (o : Options) (jobId : String) (m : Moment) :
    Prop where
  /-- They return the same, later by the time lost until then, -/
  returns : ∀ q t result, SettlesAs e o jobId m q t result →
    ∃ t', Later ((scenario e o jobId m).lost q) t t' ∧
      SettlesAs e' o jobId m ((scenario e o jobId m).settledBefore q) t'
        (retimed (.ofNanos (t' - m.now)) result)
  /-- and neither returns alone. -/
  returned : ∀ q' t' result, SettlesAs e' o jobId m q' t' result →
    ∃ q t, q' = (scenario e o jobId m).settledBefore q ∧
      Later ((scenario e o jobId m).lost q) t t' ∧
      SettlesAs e o jobId m q t (retimed (.ofNanos (t - m.now)) result)
  /-- The listener hears the same events in the same order, -/
  hears : ∀ k event t, Hears e o jobId m k event t →
    ∃ f q s t', (scenario e o jobId m).Answered k f q t (.ok s) ∧
      Later ((scenario e o jobId m).lost q) t t' ∧
      Hears e' o jobId m k { event with elapsed := .ofNanos (t' - m.now) } t'
  /-- and none in one of them alone. -/
  heard : ∀ k event t', Hears e' o jobId m k event t' →
    ∃ f q s t, (scenario e o jobId m).Answered k f q t (.ok s) ∧
      Later ((scenario e o jobId m).lost q) t t' ∧
      Hears e o jobId m k { event with elapsed := .ofNanos (t - m.now) } t
  /-- Before slot `k + 1` both wait for the same interval, -/
  rests : ∀ k q t, (scenario e o jobId m).Settled k q t →
    ∃ t', (scenario e' o jobId m).Settled k k t' ∧
      Later ((scenario e o jobId m).lost q) t t' ∧
      WaitsAt e o jobId m t (o.interval k) .rested ∧
      WaitsAt e' o jobId m t' (o.interval k) .rested
  /-- neither gets to a slot alone, -/
  settled : ∀ k q' t', (scenario e' o jobId m).Settled k q' t' →
    q' = k ∧ ∃ q t, (scenario e o jobId m).Settled k q t
  /-- and they back off at no other times. -/
  backsOff : ∀ t span, (WaitsAt e o jobId m t span .rested →
      ∃ k q, (scenario e o jobId m).Settled k q t ∧ span = o.interval k) ∧
    (WaitsAt e' o jobId m t span .rested →
      ∃ k q, (scenario e' o jobId m).Settled k q t ∧ span = o.interval k)

/-- A wait before a slot is the wait for its interval. -/
theorem settled_of_rested (hcalm : e.Calm m) {span : Nat}
    (h : WaitsAt e o jobId m t span .rested) :
    ∃ k q, (scenario e o jobId m).Settled k q t ∧ span = o.interval k := by
  -- the delay between two requests ends in a phase of its own
  have hphase : ∀ f : UInt32, Phase.rested ≠ Phase.retried f := fun f heq =>
    nomatch congrFun heq .elapsed
  generalize hrested : Phase.rested = phase at h
  cases (waitsAt_iff hcalm).1 h with
  | slot hsettled => exact ⟨_, _, hsettled, rfl⟩
  | repetition => exact absurd hrested (hphase _)

/-- **Without its failures a poll is the same.** -/
theorem transparent_of_spares {client : Client} (hcalm : e.Calm m)
    (hcalm' : ({ e with client } : Setting Event).Calm m)
    (hspares : (scenario e o jobId m).Spares (scenario { e with client } o jobId m).script)
    (htolerable : (scenario e o jobId m).Tolerable) (hkeeps : KeepsBudget e o jobId m)
    (hkeeps' : KeepsBudget { e with client } o jobId m) :
    Transparent e { e with client } o jobId m := by
  have hin := hkeeps.inTime hcalm
  have htime := hkeeps'.inTime hcalm'
  constructor
  · intro q t result hsettles
    obtain ⟨t', hlater, hdecides⟩ :=
      (hkeeps.decides hcalm hsettles).spared hspares htolerable htime
    exact ⟨t', hlater, (settlesAs_iff hcalm').2 (.decided hdecides)⟩
  · intro q' t' result hsettles
    obtain ⟨q, t, hplace, hlater, hdecides⟩ :=
      (hkeeps'.decides hcalm' hsettles).of_spared hspares htolerable hin htime
    exact ⟨q, t, hplace, hlater, (settlesAs_iff hcalm).2 (.decided hdecides)⟩
  · intro k event t hhears
    obtain ⟨hlistens, htells⟩ := (hears_iff hcalm).1 hhears
    obtain ⟨f, q, s, t', ha, hlater, htells'⟩ := htells.spared hspares htolerable htime
    exact ⟨f, q, s, t', ha, hlater, (hears_iff hcalm').2 ⟨hlistens, htells'⟩⟩
  · intro k event t' hhears
    obtain ⟨hlistens, htells⟩ := (hears_iff hcalm').1 hhears
    obtain ⟨f, q, s, t, ha, hlater, htells'⟩ := htells.of_spared hspares htolerable hin htime
    exact ⟨f, q, s, t, ha, hlater, (hears_iff hcalm).2 ⟨hlistens, htells'⟩⟩
  · intro k q t hsettled
    obtain ⟨t', hsettled', hlater⟩ := hsettled.spared hspares htime
    exact ⟨t', hsettled', hlater,
      (waitsAt_iff hcalm).2 (.slot hsettled (hin _ _ _ hsettled)),
      (waitsAt_iff hcalm').2 (.slot hsettled' (htime _ _ _ hsettled'))⟩
  · intro k q' t' hsettled
    obtain ⟨hq, q, t, hsettled', -⟩ := hsettled.of_spared hspares htolerable hin htime
    exact ⟨hq, q, t, hsettled'⟩
  · exact fun t span => ⟨settled_of_rested hcalm, settled_of_rested hcalm'⟩

/-! ## A poll that gets over any number of failures -/

/-- A service that is reached in every slot at the last attempt, and has the
report in the last of these slots. -/
def unsteady (retries slots q : Nat) : Except Client.Error State :=
  if q % (retries + 1) < retries then .error (.network "reset")
  else if q / (retries + 1) < slots then .ok (.ofStatus .pending)
  else .ok ⟨.completed, some ⟨"done", [], []⟩, none, none⟩

/-- The answer to the last request of a slot. -/
theorem unsteady_last {retries slots : Nat} (k : Nat) :
    unsteady retries slots (k * (retries + 1) + retries) =
      if k < slots then .ok (.ofStatus .pending)
      else .ok ⟨.completed, some ⟨"done", [], []⟩, none, none⟩ := by
  have hlt : retries < retries + 1 := Nat.lt_succ_self retries
  have hdiv : (k * (retries + 1) + retries) / (retries + 1) = k := by
    rw [Nat.add_comm, Nat.add_mul_div_right _ _ (Nat.succ_pos retries), Nat.div_eq_of_lt hlt,
      Nat.zero_add]
  rw [unsteady, Nat.mul_add_mod_self_right, Nat.mod_eq_of_lt hlt, if_neg (Nat.lt_irrefl _), hdiv]

section Unsteady

variable {retries : UInt32} {slots k f r : Nat}

/-- The scenario of a caller of that service. -/
abbrev unsteadily (retries : UInt32) (slots : Nat) : Scenario :=
  scenario (promptly (unsteady retries.toNat slots)) (waitless retries) "job-1" (.start none)

/-- The requests before one are all that its slot and the slots before have
made, and no time has passed. -/
theorem place_of_asks (h : (unsteadily retries slots).Asks k f q r) :
    q = k * (retries.toNat + 1) + f ∧ f ≤ retries.toNat ∧ r = 0 := by
  have hdue : due 0 0 = 0 := by decide
  have hbegin : ∀ k, due 0 ((unsteadily retries slots).options.interval k) = 0 := fun k => by
    rw [show (unsteadily retries slots).options.interval k = 0 from waitless_interval k, hdue]
  induction h with
  | first => exact ⟨by simp, Nat.zero_le _, hbegin 0⟩
  | @next k f q r d s _ hscript _ _ ih =>
    obtain ⟨hplace, hle, rfl⟩ := ih
    rw [promptly_script, Option.some.injEq, Prod.mk.injEq] at hscript
    obtain ⟨rfl, hanswer⟩ := hscript
    -- an answer that arrives is the last of its slot
    have hlast : f = retries.toNat := by
      refine Nat.le_antisymm hle (Nat.not_lt.1 fun hlt => ?_)
      rw [unsteady, hplace, Nat.mul_add_mod_self_right, Nat.mod_eq_of_lt (by omega),
        if_pos hlt] at hanswer
      cases hanswer
    refine ⟨?_, Nat.zero_le _, by rw [hdue, hbegin]⟩
    rw [hplace, hlast, Nat.succ_mul]
    omega
  | @again k f q r d message _ hscript _ ih =>
    obtain ⟨hplace, hle, rfl⟩ := ih
    rw [promptly_script, Option.some.injEq, Prod.mk.injEq] at hscript
    obtain ⟨rfl, hanswer⟩ := hscript
    -- and a failure is not
    have hmore : f < retries.toNat := by
      refine Nat.lt_of_le_of_ne hle fun hlast => ?_
      rw [hplace, hlast, unsteady_last] at hanswer
      split at hanswer <;> cases hanswer
    exact ⟨by rw [hplace, Nat.add_assoc], hmore, by rw [hdue]; exact hdue⟩

theorem unsteadily_fails (hf : f < retries.toNat) (k : Nat) :
    (unsteadily retries slots).Fails (k * (retries.toNat + 1) + f) := by
  refine ⟨0, "reset", ?_⟩
  rw [promptly_script, unsteady, Nat.mul_add_mod_self_right, Nat.mod_eq_of_lt (by omega),
    if_pos hf]

theorem unsteadily_tolerable : (unsteadily retries slots).Tolerable := by
  rintro k q t message ⟨r, d, hasks, hscript, -⟩
  have hplace : q = k * (retries.toNat + 1) + retries.toNat := (place_of_asks hasks).1
  rw [promptly_script, hplace, unsteady_last] at hscript
  split at hscript <;> cases hscript

/-- Every slot gets to its last request. -/
theorem unsteadily_answered {t : Instant} (h : (unsteadily retries slots).Settled k q t)
    (hbudget : (unsteadily retries slots).InBudget t) (hq : q = k * (retries.toNat + 1)) :
    (unsteadily retries slots).Answered k retries.toNat (k * (retries.toNat + 1) + retries.toNat) 0
      (unsteady retries.toNat slots (k * (retries.toNat + 1) + retries.toNat)) := by
  subst hq
  obtain ⟨r, hasks⟩ := h.asks_after hbudget (Nat.le_refl retries.toNat) fun j hj =>
    unsteadily_fails hj k
  obtain ⟨-, -, rfl⟩ := place_of_asks hasks
  exact ⟨0, 0, hasks, promptly_script _, by decide⟩

/-- The slots before the last one settle. -/
theorem unsteadily_settled (hk : k ≤ slots) :
    (unsteadily retries slots).Settled k (k * (retries.toNat + 1)) 0 := by
  induction k with
  | zero =>
    rw [Nat.zero_mul]
    exact .none
  | succ k ih =>
    have hanswered := unsteadily_answered (ih (Nat.le_of_succ_le hk)) Nat.one_pos rfl
    rw [unsteady_last, if_pos (Nat.lt_of_succ_le hk)] at hanswered
    rw [Nat.succ_mul]
    exact .slot hanswered rfl

/-- **A poll gets over any number of failures**, as many in each slot as it
may repeat. -/
theorem unsteadily_settles (retries : UInt32) (slots : Nat) :
    SettlesAs (promptly (unsteady retries.toNat slots)) (waitless retries) "job-1" (.start none)
      ((slots + 1) * (retries.toNat + 1)) 0
      (.ok ⟨⟨"done", [], []⟩, .ofNat (slots + 1), .ofNanos 0⟩) := by
  have hcalm := promptly_calm (unsteady retries.toNat slots)
  have hanswered : (unsteadily retries slots).Answered slots retries.toNat _ 0 _ :=
    unsteadily_answered (unsteadily_settled (Nat.le_refl slots)) Nat.one_pos rfl
  rw [unsteady_last, if_neg (Nat.lt_irrefl _)] at hanswered
  rw [settlesAs_iff hcalm, Nat.succ_mul]
  exact .decided (.completed hanswered rfl rfl)

end Unsteady

/-- **Repeated requests leave no trace but time.** Every script has one without
its failures. A poll in which no slot has more failures than it may repeat is
the same poll as the one that is told that script, if nobody cancels them and
neither comes to the end of its budget: they return the same, tell the same
events and wait for the same intervals before their slots, in the first later
by the time that the failures took. No slot looks at the failures of another:
each may have as many as the options allow, so that a poll gets over any number
of them. -/
theorem retries_transparent :
    (∀ c : Scenario, ∃ script, c.Spares script) ∧
    (∀ (e : Setting Event) (client : Client) (o : Options) (jobId : String) (m : Moment),
      let e' : Setting Event := { e with client }
      e.Calm m → e'.Calm m →
      (scenario e o jobId m).Spares (scenario e' o jobId m).script →
      (scenario e o jobId m).Tolerable → KeepsBudget e o jobId m → KeepsBudget e' o jobId m →
      Transparent e e' o jobId m) ∧
    (∀ (c : Scenario) (k f q : Nat) (t : Instant), c.Settled k q t → c.InBudget t →
      f ≤ c.options.maxRetries.toNat → (∀ j < f, c.Fails (q + j)) → ∃ r, c.Asks k f (q + f) r) ∧
    (∀ (retries : UInt32) (slots : Nat), ∃ (e : Setting Event) (o : Options) (m : Moment)
      (report : Report) (t : Instant) (elapsed : Duration),
      o.maxRetries = retries ∧ e.Calm m ∧ (scenario e o "job-1" m).Tolerable ∧
        (∀ k ≤ slots, ∀ f < retries.toNat,
          (scenario e o "job-1" m).Fails (k * (retries.toNat + 1) + f)) ∧
        SettlesAs e o "job-1" m ((slots + 1) * (retries.toNat + 1)) t
          (.ok ⟨report, .ofNat (slots + 1), elapsed⟩)) := by
  refine ⟨exists_spares, ?_, ?_, ?_⟩
  · intro e client o jobId m e' hcalm hcalm' hspares htolerable hkeeps hkeeps'
    exact transparent_of_spares hcalm hcalm' hspares htolerable hkeeps hkeeps'
  · intro c k f q t hsettled hbudget hf hfails
    exact hsettled.asks_after hbudget hf hfails
  · intro retries slots
    exact ⟨promptly (unsteady retries.toNat slots), waitless retries, .start none, _, _, _, rfl,
      promptly_calm _, unsteadily_tolerable, fun k _ f hf => unsteadily_fails hf k,
      unsteadily_settles retries slots⟩

/-! ## Two polls to compare -/

/-- A service that has the report at once. -/
def readyClient : Client :=
  .ofSequences (fun _ => .now (.error .cancelled))
    (fun _ => .now (.ok ⟨.completed, some ⟨"done", [], []⟩, none, none⟩))
    fun _ => .now (.error .cancelled)

/-- The same service behind a connection that breaks once, after five
milliseconds. -/
def brokenOnce : Setting Event :=
  ⟨.ofSequences (fun _ => .now (.error .cancelled))
    (Client.sequence [⟨false, some 5000000, false, some (.error (.network "reset"))⟩]
      (.now (.ok ⟨.completed, some ⟨"done", [], []⟩, none, none⟩)))
    fun _ => .now (.error .cancelled), true, some fun _ _ => false⟩

/-- And behind one that holds. -/
abbrev unbroken : Setting Event := { brokenOnce with client := readyClient }

theorem brokenOnce_quiet : brokenOnce.Quiet where
  client := by
    rintro ⟨creations, statuses, generations⟩ q
    cases q with
    | create order => rfl
    | status jobId =>
      cases statuses with
      | zero => rfl
      | succ statuses => rfl
    | generate endpoint body => rfl
  listener := by
    rintro cancels ⟨⟩ n event
    rfl

theorem unbroken_quiet : unbroken.Quiet where
  client := by
    rintro tally q
    cases q <;> rfl
  listener := by
    rintro cancels ⟨⟩ n event
    rfl

/-- What the two are asked without a signal that is cancelled. -/
theorem broken_calm : brokenOnce.Calm (.start none) ∧ unbroken.Calm (.start none) :=
  ⟨fun _ => ⟨brokenOnce_quiet, rfl⟩, fun _ => ⟨unbroken_quiet, rfl⟩⟩

/-- The first request fails, and all others are answered. -/
theorem brokenOnce_script (q : Nat) : (scenario brokenOnce o jobId (.start none)).script q =
    match q with
    | 0 => some (5000000, .error (.network "reset"))
    | _ + 1 => some (0, .ok ⟨.completed, some ⟨"done", [], []⟩, none, none⟩) := by
  have hahead : (Moment.start none).tally.ahead q = ⟨0, q, 0⟩ := by
    rw [Client.Tally.ahead, show (Moment.start none).tally = ⟨0, 0, 0⟩ from rfl, Nat.zero_add]
  change (brokenOnce.client.reply ((Moment.start none).tally.ahead q) (.status jobId)).told = _
  rw [hahead]
  cases q <;> rfl

theorem brokenOnce_fails {q : Nat} (h : (scenario brokenOnce o jobId (.start none)).Fails q) :
    q = 0 := by
  obtain ⟨d, message, hscript⟩ := h
  cases q with
  | zero => rfl
  | succ q => cases (brokenOnce_script (q + 1)).symm.trans hscript

theorem unbroken_spares : (scenario brokenOnce o jobId (.start none)).Spares
    (scenario unbroken o jobId (.start none)).script := by
  intro q hanswers
  cases q with
  | zero => exact absurd ⟨_, _, brokenOnce_script 0⟩ hanswers
  | succ q => exact (brokenOnce_script (q + 1)).symm

/-- A slot has no more failures than there were requests. -/
theorem Scenario.Asks.le_asked {c : Scenario} {k f r : Nat} (h : c.Asks k f q r) : f ≤ q := by
  induction h with
  | first | next => exact Nat.zero_le _
  | again _ _ _ ih => exact Nat.succ_le_succ ih

/-- One failure is tolerable wherever a request may be repeated. -/
theorem brokenOnce_tolerable (hmay : 0 < o.maxRetries.toNat) :
    (scenario brokenOnce o jobId (.start none)).Tolerable := by
  rintro k q t message ⟨r, d, hasks, hscript, -⟩
  obtain rfl := brokenOnce_fails ⟨d, message, hscript⟩
  exact absurd hasks.le_asked (Nat.not_le.2 hmay)

/-- With the standard options the failure makes the poll later by its five
milliseconds and the second of the delay. -/
theorem brokenOnce_transparent :
    (brokenOnce.Calm (.start none) ∧ unbroken.Calm (.start none) ∧
      (scenario brokenOnce .standard "job-1" (.start none)).Spares
        (scenario unbroken .standard "job-1" (.start none)).script ∧
      (scenario brokenOnce .standard "job-1" (.start none)).Tolerable ∧
      KeepsBudget brokenOnce .standard "job-1" (.start none) ∧
      KeepsBudget unbroken .standard "job-1" (.start none)) ∧
    Transparent brokenOnce unbroken .standard "job-1" (.start none) ∧
    SettlesAs brokenOnce .standard "job-1" (.start none) 2 6005000000
      (.ok ⟨⟨"done", [], []⟩, 1, .ofNanos 6005000000⟩) ∧
    SettlesAs unbroken .standard "job-1" (.start none) 1 5000000000
      (.ok ⟨⟨"done", [], []⟩, 1, .ofNanos 5000000000⟩) := by
  obtain ⟨hcalm, hcalm'⟩ := broken_calm
  have hsettles : SettlesAs brokenOnce .standard "job-1" (.start none) 2 6005000000
      (.ok ⟨⟨"done", [], []⟩, 1, .ofNanos 6005000000⟩) := ⟨10, rfl, rfl, rfl⟩
  have hsettles' : SettlesAs unbroken .standard "job-1" (.start none) 1 5000000000
      (.ok ⟨⟨"done", [], []⟩, 1, .ofNanos 5000000000⟩) := ⟨10, rfl, rfl, rfl⟩
  have hkeeps : KeepsBudget brokenOnce .standard "job-1" (.start none) :=
    .of_settles 10 rfl nofun
  have hkeeps' : KeepsBudget unbroken .standard "job-1" (.start none) :=
    .of_settles 10 rfl nofun
  have htolerable : (scenario brokenOnce .standard "job-1" (.start none)).Tolerable :=
    brokenOnce_tolerable (by decide)
  exact ⟨⟨hcalm, hcalm', unbroken_spares, htolerable, hkeeps, hkeeps'⟩,
    retries_transparent.2.1 brokenOnce readyClient .standard "job-1" (.start none) hcalm hcalm'
      unbroken_spares htolerable hkeeps hkeeps', hsettles, hsettles'⟩

/-- **The failures can be told by more than that.** A delay beyond the reach of
the clock does not make the poll later by itself, but by thirty years. And a
signal that is cancelled after five and a half seconds finds the poll waiting
that would have been over without the failure. -/
theorem retries_seen :
    ((brokenOnce.Calm (.start none) ∧ unbroken.Calm (.start none) ∧
        (scenario brokenOnce patientOptions "job-1" (.start none)).Spares
          (scenario unbroken patientOptions "job-1" (.start none)).script ∧
        (scenario brokenOnce patientOptions "job-1" (.start none)).Tolerable ∧
        KeepsBudget brokenOnce patientOptions "job-1" (.start none) ∧
        KeepsBudget unbroken patientOptions "job-1" (.start none)) ∧
      SettlesAs brokenOnce patientOptions "job-1" (.start none) 2 (6000000 + thirtyYears)
        (.ok ⟨⟨"done", [], []⟩, 1, .ofNanos (6000000 + thirtyYears)⟩) ∧
      SettlesAs unbroken patientOptions "job-1" (.start none) 1 1000000
        (.ok ⟨⟨"done", [], []⟩, 1, .ofNanos 1000000⟩) ∧
      6000000 + thirtyYears ≠
        1000000 + (scenario brokenOnce patientOptions "job-1" (.start none)).lost 2) ∧
    (poll .standard "job-1" 0).run brokenOnce .free 10 (.start (some 5500000000)) =
      ⟨[.asked (.status "job-1") 5000000000], .settled (.error .pollingCancelled),
        ⟨5500000000, some 5500000000, ⟨0, 1, 0⟩, 0⟩⟩ ∧
    ((poll .standard "job-1" 0).run unbroken .free 10 (.start (some 5500000000))).outcome =
      .settled (.ok ⟨⟨"done", [], []⟩, 1, .ofNanos 5000000000⟩) := by
  obtain ⟨hcalm, hcalm'⟩ := broken_calm
  have hkeeps : KeepsBudget brokenOnce patientOptions "job-1" (.start none) :=
    .of_settles 10 rfl nofun
  have hkeeps' : KeepsBudget unbroken patientOptions "job-1" (.start none) :=
    .of_settles 10 rfl nofun
  refine ⟨⟨⟨hcalm, hcalm', unbroken_spares, brokenOnce_tolerable (by decide), hkeeps, hkeeps'⟩,
    ⟨10, rfl, rfl, rfl⟩, ⟨10, rfl, rfl, rfl⟩, ?_⟩, rfl, rfl⟩
  decide +kernel

end Poll

end Research

end Amanuensis
