import Amanuensis.Proofs.Invocation.Cancellation
import Amanuensis.Proofs.Research.GivingUp
import Amanuensis.Proofs.Toolbox.Calls
import Amanuensis.Proofs.Toolbox.Verdicts
/-!
# Cancelling calls of the built-in tools

The signal of a call may be cancelled before the call, from outside while it
runs, or by one of its own hooks; the handler may find it cancelled while it
waits, when a request is given up, or in an answer of the service. In every
case the call of a built-in tool says that it was cancelled, and it does not
say so otherwise: in particular not when it has run into its deadline,
although the signal that its handler was handed is cancelled then
(`call_cancellation`).
-/


namespace Amanuensis

namespace Toolbox

open Amanuensis.Task Research Invocation

variable {options : Poll.Options} {now : Instant} {t : Tool} {params : Json}

/-! ## What the handlers settle with -/

/-- A verdict that says that the call was cancelled. -/
def CancelledVerdict (v : Tool.Verdict) : Prop := ∃ f, v = .failure f [] ∧ f.isCancellation = true

/-- A verdict that says nothing of the kind. -/
def UncancelledVerdict (v : Tool.Verdict) : Prop :=
  ∀ f contexts, v = .failure f contexts → f.isCancellation = false

theorem UncancelledVerdict.output (o : Tool.Output) : UncancelledVerdict (.output o) := nofun

theorem UncancelledVerdict.failure {f : Failure} {contexts : List String}
    (h : f.isCancellation = false) :
    UncancelledVerdict (.failure f contexts) := by
  rintro f' contexts' ⟨⟩
  exact h

/-- It is answered as what it says, -/
theorem CancelledVerdict.normalize {v : Tool.Verdict} (h : CancelledVerdict v) :
    ∃ f, v.normalize t = .error f ∧ f.isCancellation = true := by
  obtain ⟨f, rfl, hf⟩ := h
  exact ⟨f, rfl, hf⟩

/-- and as nothing else. -/
theorem UncancelledVerdict.normalize {v : Tool.Verdict} {f : Failure} (h : UncancelledVerdict v)
    (hanswer : v.normalize t = .error f) : f.isCancellation = false := by
  cases v with
  | output o =>
    simp only [Tool.Verdict.normalize, Tool.Verdict.outcome, Tool.declared] at hanswer
    split at hanswer <;> cases hanswer
    rfl
  | failure f' contexts =>
    cases hanswer
    exact h f contexts rfl
  | error messages =>
    cases hanswer
    rfl
  | breakdown text =>
    cases hanswer
    rfl

theorem findingVerdict_cancelled {result : Except Failure Poll.Finding}
    (h : CancelledResult result) : CancelledVerdict (findingVerdict result) := by
  cases h
  exact ⟨_, rfl, rfl⟩

theorem findingVerdict_uncancelled {result : Except Failure Poll.Finding}
    (h : UncancelledResult result) : UncancelledVerdict (findingVerdict result) := by
  cases result with
  | ok finding => exact .output _
  | error f => exact .failure (h f rfl)

theorem output_uncancelled (order : Generation.Order) (answer : Json) :
    UncancelledVerdict (verdictOf (order.output answer)) := by
  cases order with
  | image o =>
    simp only [Generation.Order.output, Generation.imageOutput]
    split
    · exact .output _
    · exact .failure (Failure.remote_isCancellation _ _)
  | document o =>
    simp only [Generation.Order.output, Generation.documentOutput]
    split
    · exact .output _
    · exact .failure (Failure.remote_isCancellation _ _)

/-! ## Giving up -/

theorem studying_yields {plan : Study.Plan} {study : Study.Machine}
    (h : Yields (Study.step plan) CancelledResult study) :
    Yields (step options) CancelledVerdict (.studying plan study) := by
  intro now cancelled
  obtain ⟨r, hsettle, hr⟩ := h now cancelled
  exact ⟨_, congrArg (studied plan) hsettle, findingVerdict_cancelled hr⟩

theorem studied_heeds {plan : Study.Plan} {move : Study.Move}
    (h : move.Heeds (Yields (Study.step plan) CancelledResult)) :
    (studied plan move).Heeds (Yields (step options) CancelledVerdict) :=
  h.map fun _ => studying_yields

theorem studied_finds (plan : Study.Plan) (study : Study.Machine) :
    studied plan (Study.step plan now true study) =
        studied plan (Study.step plan now false study) ∨
      ∃ v, studied plan (Study.step plan now true study) = .settle v ∧ CancelledVerdict v := by
  obtain hsame | ⟨r, hsettle, hr⟩ := (Study.step_yielding plan).finds now study
  · exact .inl (congrArg (studied plan) hsame)
  · exact .inr ⟨_, congrArg (studied plan) hsettle, findingVerdict_cancelled hr⟩

/-- **A built-in handler that finds its signal cancelled gives up**, or does
what it does anyway. -/
theorem step_yielding (options : Poll.Options) : Yielding (step options) CancelledVerdict := by
  refine ⟨fun now s => ?_, fun now s => ?_⟩
  · cases s with
    | begin tool params =>
      obtain ⟨i, rfl, hread⟩ | ⟨order, horder⟩ := begin_cases options tool params
      · rw [step_research hread]
        generalize Study.Machine.begin = study
        exact studied_heeds ((Study.step_yielding (planOf options i)).heeds now study)
      · rw [horder]
        cases order <;> trivial
    | studying plan study => exact studied_heeds ((Study.step_yielding plan).heeds now study)
    | noticed order => exact ⟨fun _ _ => ⟨_, rfl, _, rfl, rfl⟩, fun _ _ => ⟨_, rfl, _, rfl, rfl⟩⟩
    | generated order answer =>
      match answer with
      | none => trivial
      | some (.error error) => trivial
      | some (.ok answer) => trivial
  · cases s with
    | begin tool params =>
      obtain ⟨i, rfl, hread⟩ | ⟨order, horder⟩ := begin_cases options tool params
      · rw [step_research hread, step_research hread]
        generalize Study.Machine.begin = study
        exact studied_finds (planOf options i) study
      · rw [horder, horder]
        exact .inl rfl
    | studying plan study => exact studied_finds plan study
    | noticed order => exact .inl rfl
    | generated order answer =>
      match answer with
      | none => exact .inl rfl
      | some (.error error) => exact .inl rfl
      | some (.ok answer) => exact .inl rfl

/-- The moves that a built-in handler has left once its signal is cancelled,
at most. -/
def movesLeft : Machine → Nat
  | .begin _ _ => 2
  | .studying _ study => Study.movesLeft study
  | .noticed _ => 1
  | .generated _ _ => 0

theorem step_winding (options : Poll.Options) : Winding (step options) movesLeft := by
  intro now s
  cases s with
  | begin tool params =>
    obtain ⟨i, rfl, hread⟩ | ⟨order, horder⟩ := begin_cases options tool params
    · have hleft : Study.movesLeft .begin ≤ 2 := Nat.zero_le 2
      rw [step_research hread]
      generalize Study.Machine.begin = study at hleft ⊢
      exact (Study.step_winding (planOf options i) now study).map (fun _ => rfl) hleft
    · rw [horder]
      cases order with
      | ok order => exact Nat.one_lt_two
      | error f => trivial
  | studying plan study =>
    exact (Study.step_winding plan now study).map (fun _ => rfl) (Nat.le_refl _)
  | noticed order => exact ⟨Nat.one_pos, fun _ _ => Nat.one_pos⟩
  | generated order answer =>
    match answer with
    | none => trivial
    | some (.error error) => trivial
    | some (.ok answer) => trivial

/-! ## Not giving up -/

/-- The states of a built-in handler whose signal is not cancelled. -/
def Unbroken : Machine → Prop
  | .begin _ _ | .noticed _ => True
  | .studying _ study => Study.Unbroken study
  | .generated _ answer => UnbrokenAnswer answer

theorem studied_uncancelled {plan : Study.Plan} {study : Study.Machine}
    (h : Study.Unbroken study) :
    (studied plan (Study.step plan now false study)).Uncancelled Unbroken UncancelledVerdict :=
  (Study.step_uncancelled plan now study h).map (fun _ hs => hs) fun _ => findingVerdict_uncancelled

theorem readParams_uncancelled {α : Type} {tool : String} {decode : Json → Wire.Decoded α}
    {f : Failure} (h : Tool.readParams tool decode params = .error f) :
    f.isCancellation = false := by
  unfold Tool.readParams at h
  split at h <;> cases h
  rfl

theorem beginOrder_uncancelled {α : Type} {tool : String} {decode : Json → Wire.Decoded α}
    {order : α → Generation.Order} :
    (beginOrder ((Tool.readParams tool decode params).map order)).Uncancelled Unbroken
      UncancelledVerdict := by
  cases hread : Tool.readParams tool decode params with
  | ok a => exact trivial
  | error f => exact UncancelledVerdict.failure (readParams_uncancelled hread)

theorem begin_uncancelled {tool : String} :
    (step options now false (.begin tool params)).Uncancelled Unbroken UncancelledVerdict := by
  simp only [step]
  split
  · split
    · have hbegin : Study.Unbroken .begin := trivial
      generalize Study.Machine.begin = study at hbegin ⊢
      exact studied_uncancelled hbegin
    · exact UncancelledVerdict.failure (readParams_uncancelled ‹_›)
  · split
    · exact beginOrder_uncancelled
    · split
      · exact beginOrder_uncancelled
      · exact UncancelledVerdict.failure rfl

/-- **A built-in handler whose signal is not cancelled does not say that it
is.** -/
theorem step_uncancelled (options : Poll.Options) :
    Uncancelled (step options) Unbroken UncancelledVerdict := by
  intro now s hs
  cases s with
  | begin tool params => exact begin_uncancelled
  | studying plan study => exact studied_uncancelled hs
  | noticed order => exact fun _ => UnbrokenAnswer.of_ne
  | generated order answer =>
    match answer with
    | none => exact absurd rfl hs.1
    | some (.error error) =>
      exact UncancelledVerdict.failure (Failure.toFailure_isCancellation hs.ne_cancelled)
    | some (.ok answer) => exact output_uncancelled order answer

/-! ## Whole calls -/

section Calls

variable {i : Invoker Machine} {client : Client} {c : Context} {m : Moment}

/-- A call says that it was cancelled only if it is, if the service is
honest. -/
theorem cancelled_of_answer (hhandlers : i.handlers = handlers options)
    (hhonest : Honest i.handlers.step (settingOf client c)
      (.against (i.deadlineOf c (startOf c m))) (startOf c m) (i.handlers.start t.name params))
    (hfound : i.registry.get? t.name = some t) {moves : Nat} {f : Failure}
    (hanswer : (i.invoke client moves t.name params c m).answer = some (.error f))
    (hf : f.isCancellation = true) :
    (i.standing client moves t.name params c m).cancelled c.signalled = true := by
  obtain ⟨f', hrefused⟩ | ⟨t', haccepted⟩ := refused_or_accepted i t.name params c m
  · rw [(invoke_refused hrefused client moves).1] at hanswer
    cases hanswer
    rw [hrefused.standing_eq]
    exact hrefused.cancelled_of hf
  · obtain rfl : t' = t := Option.some.inj (haccepted.found.symm.trans hfound)
    have hstep : Uncancelled i.handlers.step Unbroken UncancelledVerdict := by
      rw [hhandlers]
      exact step_uncancelled options
    have hstart : Unbroken (i.handlers.start t'.name params) := by
      rw [hhandlers]
      trivial
    exact haccepted.cancelled_of_answer hstep hstart (fun _ _ => UncancelledVerdict.normalize)
      hhonest hanswer hf

/-- The handler of a call is over in the end, once its signal is cancelled, and
also if the waits of its polls last, or undisturbed it is over, and it is not to
go on for ever. -/
theorem call_finishes (client : Client) (hhandlers : i.handlers = handlers options) {name : String}
    (haccepted : Accepted i name params c m t)
    (hends : (∃ reach, (i.standing client reach name params c m).cancelled c.signalled = true) ∨
      options.Lasting ∨
        ∃ moves answer, (i.undisturbed client moves name params c m).answer = some answer)
    (hrival : i.deadlineOf c (startOf c m) ≠ none ∨
      ∃ reach s, (i.standing client reach name params c m).seen c.signalled = some s)
    (hopen : i.rivalOf c m = none) :
    Finishes i.handlers.step (settingOf client c) (.against (i.deadlineOf c (startOf c m)))
      (startOf c m) (i.handlers.start t.name params) := by
  obtain ⟨reach, hcancelled⟩ | hgoes := hends
  · have hstep : Winding i.handlers.step movesLeft := by
      rw [hhandlers]
      exact step_winding options
    exact haccepted.finishes_of_cancelled hstep hcancelled hopen
  · have hlt := Race.lt_deadline (fun d => le_deadlineOf) hopen
    have hruns : i.deadlineOf c (startOf c m) ≠ none ∨ ∃ reach s,
        (i.runOf client reach t params c m).moment.seen c.signalled = some s := by
      simpa only [haccepted.standing_eq, courseOf_of_open hopen] using hrival
    have hstep : Yielding i.handlers.step CancelledVerdict := hhandlers ▸ step_yielding options
    refine hstep.finishes (haccepted.fresh client) hlt (fun b => ?_) hruns
    obtain hlasting | ⟨moves, answer, hanswer⟩ := hgoes
    · rw [hhandlers]
      exact (step_passes hlasting t.name params _ b).raced
    · exact haccepted.passes_of_answer hopen hanswer b

/-- A call whose signal is cancelled before answers so, and its signal stays
cancelled. -/
theorem cancelled_before (hfound : i.registry.get? t.name = some t)
    (hchecked : t.check params = .ok ()) (hcancelled : m.cancelled c.signalled = true)
    (client : Client) (moves : Nat) :
    (i.invoke client moves t.name params c m).answer = some (.error (.cancelled t.name)) ∧
      (i.standing client moves t.name params c m).cancelled c.signalled = true := by
  have hrefused : Refused i t.name params c m (.cancelled t.name) :=
    .cancelled hfound hchecked hcancelled
  refine ⟨(invoke_refused hrefused client moves).1, ?_⟩
  rw [hrefused.standing_eq]
  exact hcancelled

/-- One whose signal is cancelled while it runs gives up, if it would have
answered later. -/
theorem call_gives_up (hhandlers : i.handlers = handlers options)
    (haccepted : Accepted i t.name params c m t) {reach : Nat} {s : Instant}
    (hseen : (i.standing client reach t.name params c m).seen c.signalled = some s)
    (hbefore : ∀ moves answer,
      (i.undisturbed client moves t.name params c m).answer = some answer →
        s < (i.undisturbed client moves t.name params c m).moment.now) :
    (∀ moves answer, (i.invoke client moves t.name params c m).answer = some answer →
        ∃ f, answer = .error f ∧ f.isCancellation = true) ∧
      ((i.standing client reach t.name params c m).cancelled c.signalled = true ∨
          options.Lasting ∨
          (∃ moves answer,
            (i.undisturbed client moves t.name params c m).answer = some answer) →
        ∃ n, ∀ moves, n ≤ moves →
          ∃ f, (i.invoke client moves t.name params c m).answer = some (.error f) ∧
            f.isCancellation = true) := by
  have hstep : Yielding i.handlers.step CancelledVerdict := hhandlers ▸ step_yielding options
  have hanswers : ∀ moves answer,
      (i.invoke client moves t.name params c m).answer = some answer →
        ∃ f, answer = .error f ∧ f.isCancellation = true := fun _ _ =>
    haccepted.gives_up hstep (fun v => CancelledVerdict.normalize) hseen hbefore
  refine ⟨hanswers, fun hends => ?_⟩
  obtain ⟨n, hreturns⟩ := haccepted.returns
    (call_finishes client hhandlers haccepted (hends.imp_left fun h => ⟨reach, h⟩)
      (.inr ⟨reach, s, hseen⟩))
    (.inr ⟨reach, s, hseen⟩)
  refine ⟨n, fun moves hmoves => ?_⟩
  obtain ⟨answer, hanswer⟩ := hreturns moves hmoves
  obtain ⟨f, rfl, hf⟩ := hanswers moves answer hanswer
  exact ⟨f, hanswer, hf⟩

/-- One that has not answered before its deadline says that it has timed out,
and cancels the signal of its handler. -/
theorem call_times_out (hhandlers : i.handlers = handlers options)
    (haccepted : Accepted i t.name params c m t) {span : Duration}
    (htimeout : i.timeoutOf c = some span) :
    (∀ moves answer, (i.invoke client moves t.name params c m).answer = some answer →
        due m.now span.nanos ≤ (i.standing client moves t.name params c m).now →
        (i.standing client moves t.name params c m).cancelled c.signalled = false →
        answer = .error (.timeout t.name span) ∧
          (i.invoke client moves t.name params c m).signalCancelled = some true) ∧
      (options.Lasting →
        (∀ moves, (i.standing client moves t.name params c m).cancelled c.signalled = false) →
        (∀ moves answer, (i.invoke client moves t.name params c m).answer = some answer →
          due m.now span.nanos ≤ (i.standing client moves t.name params c m).now) →
        ∃ n, ∀ moves, n ≤ moves →
          (i.invoke client moves t.name params c m).answer =
              some (.error (.timeout t.name span)) ∧
            (i.invoke client moves t.name params c m).signalCancelled = some true) := by
  have hdeadline := deadlineOf_start htimeout m
  have hanswers : ∀ moves answer,
      (i.invoke client moves t.name params c m).answer = some answer →
        due m.now span.nanos ≤ (i.standing client moves t.name params c m).now →
        (i.standing client moves t.name params c m).cancelled c.signalled = false →
        answer = .error (.timeout t.name span) ∧
          (i.invoke client moves t.name params c m).signalCancelled = some true := by
    intro moves answer hanswer hlate huncancelled
    have htimedOut := haccepted.timed_out hdeadline hanswer hlate huncancelled
    rw [htimeout] at htimedOut
    exact ⟨htimedOut, haccepted.signalCancelled_eq hanswer⟩
  refine ⟨hanswers, fun hlasting huncancelled hlate => ?_⟩
  have hsome : i.deadlineOf c (startOf c m) ≠ none := by
    rw [hdeadline]
    nofun
  obtain ⟨n, hreturns⟩ := haccepted.returns
    (call_finishes client hhandlers haccepted (.inr (.inl hlasting)) (.inl hsome)) (.inl hsome)
  refine ⟨n, fun moves hmoves => ?_⟩
  obtain ⟨answer, hanswer⟩ := hreturns moves hmoves
  obtain ⟨rfl, hsignal⟩ :=
    hanswers moves answer hanswer (hlate moves answer hanswer) (huncancelled moves)
  exact ⟨hanswer, hsignal⟩

/-- **Cancellation is reported as cancellation, and nothing else is.** Of a
call of a built-in tool, whatever its parameters, its timeout and its hooks
are:

- It says that it was cancelled only if the caller's signal is cancelled when
  it answers, if the service says so only where that is the case.

If its parameters are accepted, moreover:

- It says that it was cancelled if the signal is cancelled before.
- It says so if the signal gets cancelled while it runs, by whomever, at an
  instant before the one at which it would answer if nobody cancelled it. It
  does answer if there is such an instant, and also once the signal is
  cancelled. Otherwise it might poll without end at one instant, but not if the
  waits of the polls last.
- It says that it has timed out if it has not answered before its deadline
  and the signal is not cancelled. The signal that was handed to its handler
  is cancelled then all the same. -/
theorem call_cancellation (options : Poll.Options) (i : Invoker Machine) (t : Tool)
    (hhandlers : i.handlers = handlers options) (hfound : i.registry.get? t.name = some t)
    (client : Client) (params : Json) (c : Context) (m : Moment) :
    let call := fun moves => i.invoke client moves t.name params c m
    let standing := fun moves => i.standing client moves t.name params c m
    let undisturbed := fun moves => i.undisturbed client moves t.name params c m
    (Honest i.handlers.step (settingOf client c) (.against (i.deadlineOf c (startOf c m)))
        (startOf c m) (i.handlers.start t.name params) →
      ∀ moves f, (call moves).answer = some (.error f) → f.isCancellation = true →
        (standing moves).cancelled c.signalled = true) ∧
    (t.check params = .ok () →
      (m.cancelled c.signalled = true →
        ∀ moves, (call moves).answer = some (.error (.cancelled t.name))) ∧
      (∀ reach s, (standing reach).seen c.signalled = some s →
        (∀ moves answer, (undisturbed moves).answer = some answer →
          s < (undisturbed moves).moment.now) →
        (∀ moves answer, (call moves).answer = some answer →
          ∃ f, answer = .error f ∧ f.isCancellation = true) ∧
        ((standing reach).cancelled c.signalled = true ∨ options.Lasting ∨
            (∃ moves answer, (undisturbed moves).answer = some answer) →
          ∃ n, ∀ moves, n ≤ moves →
            ∃ f, (call moves).answer = some (.error f) ∧ f.isCancellation = true)) ∧
      ∀ span, (c.timeout <|> i.defaultTimeout) = some span →
        (∀ moves answer, (call moves).answer = some answer →
          due m.now span.nanos ≤ (standing moves).now →
          (standing moves).cancelled c.signalled = false →
          answer = .error (.timeout t.name span) ∧ (call moves).signalCancelled = some true) ∧
        (options.Lasting → (∀ moves, (standing moves).cancelled c.signalled = false) →
          (∀ moves answer, (call moves).answer = some answer →
            due m.now span.nanos ≤ (standing moves).now) →
          ∃ n, ∀ moves, n ≤ moves →
            (call moves).answer = some (.error (.timeout t.name span)) ∧
            (call moves).signalCancelled = some true)) := by
  intro call standing undisturbed
  refine ⟨fun hhonest moves f => cancelled_of_answer hhandlers hhonest hfound, fun hchecked => ?_⟩
  cases hcancelled : m.cancelled c.signalled with
  | true =>
    have hbefore : ∀ moves, (call moves).answer = some (.error (.cancelled t.name)) ∧
        (standing moves).cancelled c.signalled = true :=
      cancelled_before hfound hchecked hcancelled client
    refine ⟨fun _ moves => (hbefore moves).1, fun reach s _ _ => ⟨fun moves answer h => ?_, ?_⟩,
      fun span _ => ⟨fun moves answer _ _ h => ?_, fun _ h _ => ?_⟩⟩
    · cases (hbefore moves).1.symm.trans h
      exact ⟨_, rfl, rfl⟩
    · exact fun _ => ⟨0, fun moves _ => ⟨_, (hbefore moves).1, rfl⟩⟩
    · cases (hbefore moves).2.symm.trans h
    · cases (hbefore 0).2.symm.trans (h 0)
  | false =>
    have haccepted : Accepted i t.name params c m t := ⟨hfound, hchecked, hcancelled⟩
    exact ⟨nofun, fun reach s => call_gives_up hhandlers haccepted,
      fun span => call_times_out hhandlers haccepted⟩

/-- A service that takes a second for an image. -/
def studio : Client :=
  .ofSequences (fun _ => ⟨false, none, false, none⟩) (fun _ => ⟨false, none, false, none⟩)
    fun _ => ⟨false, some 1000000000, true, some (.ok (.obj [("url", .str "cat.png")]))⟩

/-- A caller who cancels the call of an image after a quarter of a second
hears so. One who gives it half a second hears that this is over, although
the signal of the handler is cancelled then. -/
theorem studio_cancellation :
    let params : Json := .obj [("prompt", .str "a cat")]
    let call := fun timeout stop moves =>
      builtIn.invoke studio moves image.name params (attentive true timeout) (.start stop)
    (∃ n, ∀ moves, n ≤ moves → ∃ f,
      (call none (some 250000000) moves).answer = some (.error f) ∧ f.isCancellation = true ∧
      (builtIn.standing studio moves image.name params (attentive true none)
        (.start (some 250000000))).cancelled true = true) ∧
    (call (some halfSecond) none 5).answer = some (.error (.timeout image.name halfSecond)) ∧
    (call (some halfSecond) none 5).signalCancelled = some true := by
  intro params call
  obtain ⟨hsound, hchecked⟩ := call_cancellation .standard builtIn image rfl rfl studio params
    (attentive true none) (.start (some 250000000))
  obtain ⟨-, hrunning, -⟩ := hchecked rfl
  obtain ⟨-, htimeout⟩ := call_cancellation .standard builtIn image rfl rfl studio params
    (attentive true (some halfSecond)) (.start none)
  obtain ⟨-, -, hlate⟩ := htimeout rfl
  refine ⟨?_, ?_⟩
  · -- undisturbed it answers after a second, however many moves it is allowed
    let undisturbed := fun moves => builtIn.undisturbed studio moves image.name params
      (attentive true none) (.start (some 250000000))
    have hanswered : ∃ answer, (undisturbed 5).answer = some answer ∧
        (undisturbed 5).moment.now = 1000000000 := ⟨.ok (.image "cat.png"), by decide +kernel⟩
    obtain ⟨answer, hanswer, hnow⟩ := hanswered
    have haccepted : Accepted builtIn image.name params (attentive true none)
        (.start (some 250000000)) image := ⟨rfl, rfl, rfl⟩
    have hbefore : ∀ moves answer, (undisturbed moves).answer = some answer →
        250000000 < (undisturbed moves).moment.now := by
      intro moves answer' hanswer'
      have hsame : undisturbed moves = undisturbed 5 :=
        haccepted.undisturbed.answers_once hanswer' hanswer
      rw [hsame, hnow]
      decide
    obtain ⟨n, hgivesUp⟩ := (hrunning 0 250000000 rfl hbefore).2 (.inr (.inr ⟨5, answer, hanswer⟩))
    refine ⟨n, fun moves hmoves => ?_⟩
    obtain ⟨f, hanswer, hf⟩ := hgivesUp moves hmoves
    refine ⟨f, hanswer, hf, hsound (honest_of_ending fun tally q => ?_) moves f hanswer hf⟩
    cases q <;> nofun
  · have hanswer : (call (some halfSecond) none 5).answer =
        some (.error (.timeout image.name halfSecond)) := by decide +kernel
    exact ⟨hanswer, ((hlate halfSecond rfl).1 5 _ hanswer (by decide +kernel)
      (by decide +kernel)).2⟩

end Calls

end Toolbox

end Amanuensis
