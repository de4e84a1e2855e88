import Amanuensis.Proofs.Invocation.Lifecycle
import Amanuensis.Proofs.Task.Race
/-!
# The first to settle

A call is raced: its handler against the caller's signal and a deadline.
What the call returns, when, and what its handler has done by then is
compared here with what the handler does alone, with a signal that nobody
cancels and without a deadline (`Invoker.aloneOf`). Whichever of the three
comes first wins, and the handler of a call that it does not win is cut off
at that instant (`invoke_first`).
-/


namespace Amanuensis

namespace Invocation

open Tool (Output Progress)

variable {σ : Type}

/-! ## The handler alone -/

/-- The run of the handler of a call alone: with a signal that nobody has
cancelled, and raced against nobody. -/
def Invoker.aloneOf (i : Invoker σ) (client : Client) (moves : Nat) (t : Tool) (params : Json)
    (c : Context) (m : Task.Moment) : Task.Record Progress Tool.Verdict :=
  (i.handlers.task t.name params).run (settingOf client c) .free moves
    (Task.Moment.withStop { m with heard := 0 } none)

/-- The handler of a call cancels the caller's signal neither by itself nor
through a hook or the service, and it makes finitely many moves up to any
instant. -/
structure Tame (i : Invoker σ) (client : Client) (t : Tool) (params : Json) (c : Context)
    (m : Task.Moment) : Prop where
  onStart : c.onStart ≠ some true
  quiet : (settingOf client c).Quiet
  spares : Task.SparesSignal i.handlers.step (settingOf client c)
    (Task.Moment.withStop { m with heard := 0 } none) (i.handlers.start t.name params)
  finite : ∀ instant, ∃ moves, (i.aloneOf client moves t params c m).outcome ≠ .unfinished ∨
    instant ≤ (i.aloneOf client moves t params c m).moment.now

variable {i : Invoker σ} {client : Client} {name : String} {params : Json} {c : Context}
variable {m : Task.Moment} {t : Tool} {b : Instant} {rival : Task.Rival}

theorem Tame.startOf_eq (h : Tame i client t params c m) : startOf c m = { m with heard := 0 } := by
  have hstart := h.onStart
  unfold startOf tell
  split
  · rfl
  · rename_i cancels hsome
    cases cancels with
    | false => rfl
    | true => exact absurd hsome hstart

theorem Tame.calm (h : Tame i client t params c m) :
    (settingOf client c).Calm (Task.Moment.withStop { m with heard := 0 } none) :=
  fun _ => ⟨h.quiet, rfl⟩

/-- The signal of a call that is accepted is cancelled later if it is. -/
theorem Accepted.le_stop (h : Accepted i name params c m t) {s : Instant}
    (hs : m.seen c.signalled = some s) : m.now ≤ s := by
  have huncancelled := h.uncancelled
  rw [Task.Moment.cancelled, hs] at huncancelled
  exact Nat.le_of_lt (Nat.not_le.1 (of_decide_eq_false huncancelled))

/-- And its deadline is not over when it begins. -/
theorem le_deadlineOf {d : Instant} (hd : i.deadlineOf c m = some d) : m.now ≤ d := by
  obtain ⟨timeout, -, rfl⟩ := Option.map_eq_some_iff.1 hd
  exact Task.le_due _ _

/-- The rivals of the handler of a call, when it is entered. -/
theorem Tame.first_eq (h : Tame i client t params c m) (haccepted : Accepted i name params c m t) :
    (Task.Race.against (i.deadlineOf c (startOf c m))).first (startOf c m) c.signalled =
      Task.firstRival (m.seen c.signalled) (i.deadlineOf c m) := by
  rw [h.startOf_eq]
  exact Task.Race.first_against (m := { m with heard := 0 }) fun s hs => haccepted.le_stop hs

/-! ## Losing and winning -/

/-- A handler that does not settle before the first rival is cut off by it;
one that would have no time at all is not entered. -/
theorem Tame.courseOf_lost (h : Tame i client t params c m)
    (haccepted : Accepted i name params c m t)
    (hfirst : Task.firstRival (m.seen c.signalled) (i.deadlineOf c m) = some (b, rival))
    (hopen : ∀ moves v, (i.aloneOf client moves t params c m).outcome = .settled v →
      b ≤ (i.aloneOf client moves t params c m).moment.now) :
    ∃ n, ∀ moves, n ≤ moves →
      (i.courseOf client moves t params c m).answer =
        some (.error (rivalFailure t.name (i.timeoutOf c) rival)) ∧
      (i.courseOf client moves t params c m).moment.now = b ∧
      effectsOf (i.courseOf client moves t params c m).trace =
        (i.aloneOf client moves t params c m).effects.filter (·.time < b) ∧
      (b = m.now → (i.courseOf client moves t params c m).trace = []) := by
  have hrivals := (h.first_eq haccepted).trans hfirst
  have hle : m.now ≤ b :=
    Task.Unrivalled.firstRival_late ⟨fun s => haccepted.le_stop, fun d => le_deadlineOf⟩ _ hfirst
  have hnow : (startOf c m).now = m.now := by rw [h.startOf_eq]
  by_cases hlt : m.now < b
  · -- the handler is entered and its run is cut off at `b`
    have hlost : (Task.Race.against (i.deadlineOf c (startOf c m))).lost (startOf c m) c.signalled
        (some (startOf c m).now) = none :=
      Task.Race.lost_of_lt (by rw [hrivals]; exact .some (Nat.le_refl b)) (hnow ▸ hlt)
    obtain ⟨enough, hgets⟩ := h.finite b
    have hfirst' : Task.firstRival ((Task.Moment.withStop { m with heard := 0 } m.stop).seen
        c.signalled) (i.deadlineOf c m) = some (b, rival) := hfirst
    obtain ⟨n, hrun⟩ := Task.runFrom_lost h.quiet h.spares h.calm hfirst' hlt hgets (hopen enough)
    refine ⟨n, fun moves hmoves => ?_⟩
    obtain ⟨houtcome, hmoment, heffects⟩ := hrun moves hmoves
    rw [courseOf_of_open hlost, Invoker.runOf, h.startOf_eq]
    refine ⟨?_, hmoment, ?_, fun heq => absurd hlt (heq ▸ Nat.lt_irrefl _)⟩
    · exact congrArg (answerOf t (i.timeoutOf c)) houtcome
    · exact (effectsOf_effects _).trans heffects
  · -- a rival that is there already: the handler is not entered, and alone does nothing earlier
    obtain rfl : b = m.now := Nat.le_antisymm (Nat.not_lt.1 hlt) hle
    have hlost := Task.Race.lost_of_le hrivals (Nat.le_of_eq hnow.symm)
    refine ⟨0, fun moves _ => ?_⟩
    rw [courseOf_of_lost hlost]
    refine ⟨rfl, hnow, ?_, fun _ => rfl⟩
    refine (List.filter_eq_nil_iff.2 fun x hx hbefore => ?_).symm
    have hlate : (Task.Moment.withStop { m with heard := 0 } none).now ≤ x.time :=
      Task.le_time_of_mem_runFrom hx
    exact absurd (of_decide_eq_true hbefore) (Nat.not_lt.2 hlate)

/-- A handler that settles before every rival is not disturbed. -/
theorem Tame.courseOf_won (h : Tame i client t params c m)
    (haccepted : Accepted i name params c m t) {moves : Nat} {v : Tool.Verdict}
    (hsettled : (i.aloneOf client moves t params c m).outcome = .settled v)
    (hstop : ∀ s, m.seen c.signalled = some s →
      (i.aloneOf client moves t params c m).moment.now < s)
    (hdeadline : ∀ d, i.deadlineOf c m = some d →
      (i.aloneOf client moves t params c m).moment.now < d) :
    (i.courseOf client moves t params c m).answer = some (v.normalize t) ∧
      (i.courseOf client moves t params c m).moment.now =
        (i.aloneOf client moves t params c m).moment.now ∧
      effectsOf (i.courseOf client moves t params c m).trace =
        (i.aloneOf client moves t params c m).effects := by
  -- no rival comes before the instant after the one at which the handler settles
  have hopen : Task.Unrivalled (m.seen c.signalled) (i.deadlineOf c m)
      ((i.aloneOf client moves t params c m).moment.now + 1) := ⟨hstop, hdeadline⟩
  have hnow : m.now ≤ (i.aloneOf client moves t params c m).moment.now :=
    Task.le_now_of_settled hsettled
  have hlt : (startOf c m).now < (i.aloneOf client moves t params c m).moment.now + 1 := by
    rw [h.startOf_eq]
    exact Nat.lt_succ_of_le hnow
  have hlost : (Task.Race.against (i.deadlineOf c (startOf c m))).lost (startOf c m) c.signalled
      (some (startOf c m).now) = none :=
    Task.Race.lost_of_lt (by rw [h.first_eq haccepted]; exact hopen.firstRival_late) hlt
  have hrun : (i.handlers.task t.name params).run (settingOf client c)
      (.against (i.deadlineOf c m)) moves { m with heard := 0 } =
        ⟨(i.aloneOf client moves t params c m).effects, .settled v,
          (i.aloneOf client moves t params c m).moment.withStop m.stop⟩ :=
    Task.runFrom_won h.quiet h.spares h.calm hopen hsettled (Nat.lt_succ_self _)
  have hdeadlines : i.deadlineOf c { m with heard := 0 } = i.deadlineOf c m := rfl
  rw [courseOf_of_open hlost, Invoker.runOf, h.startOf_eq, hdeadlines, hrun]
  exact ⟨rfl, rfl, effectsOf_effects _⟩

/-- **The first to settle wins, and the others are cut off.** Of a call that
is accepted and whose handler is tame, with a timeout of its own or else the
usual one, if any:

- The caller cancels it before its deadline, and before its handler would
  have settled: it returns then that it has been cancelled.
- Its deadline comes before the cancellation, and not after its handler
  would have settled: it returns then that it has timed out, and may be
  tried again. Without any time its handler is not even entered.
- Its handler settles before both: it returns then what the handler settled
  with.

In the first two cases its handler has done what it does alone before that
instant, and in the last all that it does alone. The deadline is as far off
as the timeout says, or thirty years if the clock cannot tell an instant so
far off. -/
theorem invoke_first (i : Invoker σ) (client : Client) (name : String) (params : Json)
    (c : Context) (m : Task.Moment) (t : Tool) (haccepted : Accepted i name params c m t)
    (htame : Tame i client t params c m) :
    let call := fun moves => i.invoke client moves name params c m
    let alone := fun moves => i.aloneOf client moves t params c m
    let stop := m.seen c.signalled
    let timeout := c.timeout <|> i.defaultTimeout
    let deadline := timeout.map fun d => Task.due m.now d.nanos
    (∀ s, stop = some s → (∀ d, deadline = some d → s < d) →
      (∀ moves v, (alone moves).outcome = .settled v → s < (alone moves).moment.now) →
      ∃ n, ∀ moves, n ≤ moves →
        (call moves).answer = some (.error (.cancelled name)) ∧
        (call moves).moment.now = s ∧
        effectsOf (call moves).trace = (alone moves).effects.filter (·.time < s)) ∧
    (∀ span d, timeout = some span → deadline = some d → (∀ s, stop = some s → d < s) →
      (∀ moves v, (alone moves).outcome = .settled v → d ≤ (alone moves).moment.now) →
      (Failure.timeout name span).retryable = true ∧
      ∃ n, ∀ moves, n ≤ moves →
        (call moves).answer = some (.error (.timeout name span)) ∧
        (call moves).moment.now = d ∧
        effectsOf (call moves).trace = (alone moves).effects.filter (·.time < d) ∧
        (d = m.now → entries (call moves).trace = [])) ∧
    ∀ moves v, (alone moves).outcome = .settled v →
      (∀ s, stop = some s → (alone moves).moment.now < s) →
      (∀ d, deadline = some d → (alone moves).moment.now < d) →
      (call moves).answer = some (v.normalize t) ∧
      (call moves).moment.now = (alone moves).moment.now ∧
      effectsOf (call moves).trace = (alone moves).effects := by
  have hcall := invoke_accepted haccepted client
  have hnow := haccepted.now_eq client
  have heffects := haccepted.effectsOf_eq client
  intro call alone stop timeout deadline
  refine ⟨fun s hs hdeadline hopen => ?_, fun span d hspan hd hstop hopen => ?_,
    fun moves v hsettled hstop hdeadline => ?_⟩
  · have hfirst : Task.firstRival stop deadline = some (s, .signal) := by
      rw [hs]
      exact Task.firstRival_signal fun d hd => Nat.le_of_lt (hdeadline d hd)
    obtain ⟨n, hlost⟩ := htame.courseOf_lost haccepted hfirst fun moves v hsettled =>
      Nat.le_of_lt (hopen moves v hsettled)
    refine ⟨n, fun moves hmoves => ?_⟩
    obtain ⟨hanswer, hthen, hdone, -⟩ := hlost moves hmoves
    refine ⟨(hcall moves).1.trans ?_, (hnow moves).trans hthen, (heffects moves).trans hdone⟩
    rw [hanswer, rivalFailure, haccepted.name_eq]
  · have hfirst : Task.firstRival stop deadline = some (d, .deadline) := by
      rw [hd]
      exact Task.firstRival_deadline hstop
    obtain ⟨n, hlost⟩ := htame.courseOf_lost haccepted hfirst hopen
    refine ⟨rfl, n, fun moves hmoves => ?_⟩
    obtain ⟨hanswer, hthen, hdone, hunentered⟩ := hlost moves hmoves
    refine ⟨(hcall moves).1.trans ?_, (hnow moves).trans hthen, (heffects moves).trans hdone,
      fun heq => ?_⟩
    · have htimeout : i.timeoutOf c = some span := hspan
      rw [hanswer, htimeout, rivalFailure, haccepted.name_eq]
      rfl
    · rw [haccepted.entries_eq, hunentered heq]
      rfl
  · obtain ⟨hanswer, hthen, hdone⟩ := htame.courseOf_won haccepted hsettled hstop hdeadline
    exact ⟨(hcall moves).1.trans hanswer, (hnow moves).trans hthen, (heffects moves).trans hdone⟩

/-! ## Routines in a race -/

/-- A routine that cancels the caller's signal has a step that does. -/
theorem cancel_mem_of_step {r next : Tool.Routine} (h : r.step = .cancel next) :
    .cancel ∈ r.steps := by
  obtain ⟨params, steps⟩ := r
  cases steps with
  | nil => cases h
  | cons step rest =>
    cases step with
    | cancel => exact List.mem_cons_self
    | report p => cases h
    | sleep span => cases h
    | awaitSignal => cases h
    | never => cases h
    | echo param => cases h
    | settle v => cases h

/-- One without does not come to have one. -/
theorem routine_keeping : Task.Keeping (fun _ _ (r : Tool.Routine) => r.step)
    (fun r => .cancel ∉ r.steps) (fun _ => True) fun _ => True := by
  rintro now cancelled ⟨params, steps⟩ h
  cases steps with
  | nil => trivial
  | cons step rest =>
    have hrest : Tool.Routine.Step.cancel ∉ rest := fun hmem => h (List.mem_cons_of_mem _ hmem)
    cases step with
    | report p => exact hrest
    | sleep span => exact fun _ => hrest
    | cancel => exact hrest
    | awaitSignal => exact fun _ => hrest
    | never => exact fun _ => hrest
    | echo param => trivial
    | settle v => trivial

/-- So its calls are tame, if nothing else cancels the signal and if it
settles at some time. -/
theorem tame_of_routine {i : Invoker Tool.Routine}
    {routines : List (String × List Tool.Routine.Step)} {signalled : Bool}
    {timeout : Option Duration} (hhandlers : i.handlers = .ofRoutines routines)
    (hroutine : .cancel ∉ (routines.lookup t.name).getD []) (moves : Nat) {v : Tool.Verdict}
    (hsettled : (i.aloneOf silence moves t params (attentive signalled timeout) m).outcome =
      .settled v) :
    Tame i silence t params (attentive signalled timeout) m where
  onStart := nofun
  quiet := ⟨fun _ _ => rfl, by rintro cancels ⟨⟩ n event; rfl⟩
  spares := by
    rw [hhandlers]
    exact routine_keeping.sparesSignal hroutine fun now r next h hcancel =>
      h (cancel_mem_of_step hcancel)
  finite := fun _ => ⟨moves, .inl (by rw [hsettled]; nofun)⟩

/-- What the handler does alone depends neither on the deadline nor on the
cancellation. -/
theorem aloneOf_attentive (i : Invoker σ) (moves : Nat) (signalled : Bool)
    (timeout : Option Duration) (stop : Option Instant) :
    i.aloneOf silence moves t params (attentive signalled timeout) (.start stop) =
      i.aloneOf silence moves t params (attentive signalled none) (.start none) := rfl

def halfSecond : Duration := .ofMillis 500

/-- The greeter takes a second. It has not got as much if calls usually have
half a second, unless the caller gives it two; and a caller who cancels it
after a quarter of a second hears nothing either. -/
theorem reception_first :
    let call := fun c stop moves =>
      (reception (some halfSecond)).invoke silence moves "greet" (.obj []) c (.start stop)
    (∃ n, ∀ moves, n ≤ moves →
      (call (attentive true none) none moves).answer = some (.error (.timeout "greet" halfSecond)) ∧
      (call (attentive true none) none moves).moment.now = 500000000) ∧
    (∃ n, ∀ moves, n ≤ moves →
      (call (attentive true none) (some 250000000) moves).answer =
        some (.error (.cancelled "greet")) ∧
      (call (attentive true none) (some 250000000) moves).moment.now = 250000000) ∧
    (call (attentive true (some (.ofMillis 2000))) none 5).answer = some (.ok (.text "hello")) ∧
    (call (attentive true (some (.ofMillis 2000))) none 5).moment.now = 1000000000 := by
  intro call
  let alone := fun timeout stop moves => (reception (some halfSecond)).aloneOf silence moves greeter
    (.obj []) (attentive true timeout) (.start stop)
  have hsettled : ∀ timeout stop, (alone timeout stop 5).outcome =
      .settled (.output (.text "hello")) := by
    intro timeout stop
    rw [show alone timeout stop 5 = alone none none 5 from aloneOf_attentive _ _ _ _ _]
    decide +kernel
  -- alone it settles after a second, however many moves it is allowed
  have hsecond : ∀ timeout stop moves v, (alone timeout stop moves).outcome = .settled v →
      (alone timeout stop moves).moment.now = 1000000000 := by
    intro timeout stop moves v hv
    have hsame : alone timeout stop moves = alone timeout stop 5 :=
      Task.runFrom_eq_of_over (fun h => by cases hv.symm.trans h)
        fun h => by cases (hsettled timeout stop).symm.trans h
    rw [hsame, show alone timeout stop 5 = alone none none 5 from aloneOf_attentive _ _ _ _ _]
    decide +kernel
  have hfirst := fun timeout stop haccepted => invoke_first (reception (some halfSecond)) silence
    "greet" (.obj []) (attentive true timeout) (.start stop) greeter haccepted
    (tame_of_routine rfl (by decide) 5 (hsettled timeout stop))
  refine ⟨?_, ?_, ?_⟩
  · obtain ⟨-, n, hlost⟩ := (hfirst none none ⟨rfl, rfl, rfl⟩).2.1 halfSecond 500000000 rfl
      (by decide +kernel) nofun fun moves v hv => by rw [hsecond none none moves v hv]; decide
    exact ⟨n, fun moves hmoves => ⟨(hlost moves hmoves).1, (hlost moves hmoves).2.1⟩⟩
  · obtain ⟨n, hlost⟩ := (hfirst none (some 250000000) ⟨rfl, rfl, rfl⟩).1 250000000 rfl
      (by rintro d ⟨⟩; decide) fun moves v hv => by rw [hsecond _ _ moves v hv]; decide
    exact ⟨n, fun moves hmoves => ⟨(hlost moves hmoves).1, (hlost moves hmoves).2.1⟩⟩
  · obtain ⟨hanswer, hnow, -⟩ := (hfirst (some (.ofMillis 2000)) none ⟨rfl, rfl, rfl⟩).2.2 5 _
      (hsettled _ _) nofun (by rintro d ⟨⟩; decide)
    exact ⟨hanswer, hnow.trans (hsecond _ _ 5 _ (hsettled _ _))⟩

/-! ## Beyond the reach of the clock -/

/-- A tool that takes its time. -/
def dawdler : Tool := .plain "dawdle" "Takes its time" .text

/-- It takes 31 years. -/
def archive : Invoker Tool.Routine :=
  ⟨.standard ⟨[dawdler], by decide, by decide⟩, .ofRoutines
    [("dawdle", [.sleep 977616000000000000, .settle (.output (.text "late"))])], none⟩

/-- A span that ends beyond the reach of the clock. -/
def farOff : Duration := .ofMillis 18446744073709551615

/-- **A deadline beyond the reach of the clock comes after thirty years**,
though the handler settles long before the timeout is over. -/
theorem deadline_beyond_reach :
    let c := attentive false (some farOff)
    let alone := archive.aloneOf silence 5 dawdler (.obj []) c (.start none)
    let r := archive.invoke silence 5 "dawdle" (.obj []) c (.start none)
    (Accepted archive "dawdle" (.obj []) c (.start none) dawdler ∧
      Tame archive silence dawdler (.obj []) c (.start none)) ∧
    alone.outcome = .settled (.output (.text "late")) ∧ alone.moment.now < farOff.nanos ∧
    r.answer = some (.error (.timeout "dawdle" farOff)) ∧
    r.moment.now < alone.moment.now := by
  intro c alone r
  have haccepted : Accepted archive "dawdle" (.obj []) c (.start none) dawdler := ⟨rfl, rfl, rfl⟩
  have hsettled : alone.outcome = .settled (.output (.text "late")) := by decide +kernel
  have hopen : (Task.Race.against (archive.deadlineOf c (startOf c (.start none)))).lost
      (startOf c (.start none)) c.signalled (some (startOf c (.start none)).now) = none := by
    decide +kernel
  have hlost : (archive.runOf silence 5 dawdler (.obj []) c (.start none)).outcome =
      .lost .deadline := by
    decide +kernel
  refine ⟨⟨haccepted, tame_of_routine rfl (by decide) 5 hsettled⟩, hsettled, ?_, ?_, ?_⟩
  · decide +kernel
  · rw [(invoke_accepted haccepted silence 5).1, courseOf_of_open hopen, hlost]
    rfl
  · decide +kernel

end Invocation

end Amanuensis
