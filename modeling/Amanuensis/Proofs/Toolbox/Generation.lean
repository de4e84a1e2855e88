import Amanuensis.Proofs.Generation.Bodies
import Amanuensis.Proofs.Task.Receipts
import Amanuensis.Proofs.Toolbox.Dispatch
/-!
# Calls that generate something

A call of the tool for images or for documents makes one request, which is made
of its parameters, and is over with the answer to it (`call_generates`). However
it ends, it makes no second one; and it makes none if its parameters are not
read.
-/


namespace Amanuensis

namespace Tool

theorem exists_members {t : Tool} {params : Json} (h : t.check params = .ok ()) :
    ∃ members, params = .obj members := by
  unfold check at h
  split at h
  · exact ⟨_, rfl⟩
  · cases h

theorem readParams_eq_ok {α : Type} {tool : String} {decode : Json → Wire.Decoded α}
    {params : Json} {a : α} (h : readParams tool decode params = .ok a) :
    decode params = .ok a := by
  unfold readParams at h
  split at h <;> cases h
  assumption

theorem exists_message {α : Type} {tool : String} {decode : Json → Wire.Decoded α} {params : Json}
    {f : Failure} (h : readParams tool decode params = .error f) :
    ∃ message, f = .validation message := by
  unfold readParams at h
  split at h <;> cases h
  exact ⟨_, rfl⟩

end Tool

namespace Task

variable {σ ε ρ : Type} {step : Instant → Bool → σ → Move σ ε ρ} {e : Setting ε} {race : Race}
variable {m : Moment} {s next : σ} {deadline : Option Instant}

/-- A run whose first move is a report goes on after it. -/
theorem runFrom_told {event : ε} (h : step m.now (m.cancelled e.signalled) s = .report event next)
    (moves : Nat) :
    runFrom step e race (moves + 1) m s =
      (runFrom step e race moves (e.told m event) next).after (e.heard event m.now) := by
  have hgoto : (e.told m event).goto m.now = e.told m event := by
    conv_lhs => rw [← e.told_now event]
    rfl
  have hreport : e.turn m (.report event next : Move σ ε ρ) =
      .ok ⟨e.heard event m.now, e.told m event, some (m.now, next)⟩ := turn_report event next
  have hbeats : race.beats e.signalled ⟨e.heard event m.now, e.told m event, some (m.now, next)⟩ =
      none := Race.beats_report hreport
  have hturn : e.turnAt step m s =
      .ok ⟨e.heard event m.now, e.told m event, some (m.now, next)⟩ := by
    rw [Setting.turnAt, h, hreport]
  rw [runFrom_of_resume moves hturn hbeats rfl, hgoto]

/-- **A request that no rival cuts off** is over with the answer of its
reply. -/
theorem runFrom_answered {q : Client.Request} {next : Option (Except Client.Error q.Answer) → σ}
    {delay : Nat} {answer : Except Client.Error q.Answer}
    (h : step m.now (m.cancelled e.signalled) s = .ask q false next)
    (hdelay : (e.client.reply m.tally q).delay = some delay)
    (hending : (e.client.reply m.tally q).ending = some answer)
    (hopen : Unrivalled ((e.sent m q).seen e.signalled) deadline (due m.now delay + 1))
    (moves : Nat) :
    runFrom step e (.against deadline) (moves + 1) m s =
      (runFrom step e (.against deadline) moves ((e.sent m q).goto (due m.now delay))
        (next (some answer))).after [.asked q m.now] := by
  have hlt : (e.sent m q).now < due m.now delay + 1 := by
    rw [e.sent_now]
    exact Nat.lt_succ_of_le (le_due _ _)
  have htold : (e.client.reply m.tally q).told = some (delay, answer) := by
    rw [Client.Reply.told, hdelay, hending]
  -- the answer comes before the first rival, so it is received
  have hreceived : (e.sent m q).reception e.signalled false (e.client.reply m.tally q) =
      some (due m.now delay, some answer) := by
    refine (Moment.reception_sameBefore hopen.stop hlt false _).eq_some ?_ (Nat.lt_succ_self _)
    rw [htold, e.sent_now]
    rfl
  have hturn : e.turnAt step m s =
      .ok ⟨[.asked q m.now], e.sent m q, some (due m.now delay, next (some answer))⟩ := by
    rw [Setting.turnAt, h, turn_ask (Bool.false_and _), hreceived]
    rfl
  have hfirst : Late (due m.now delay + 1)
      ((Race.against deadline).first (e.sent m q) e.signalled) := by
    rw [Race.first_against fun s hs => Nat.le_trans (Nat.le_of_lt hlt) (hopen.stop s hs)]
    exact hopen.firstRival_late
  exact runFrom_of_resume moves hturn (Race.beats_of_lt hfirst rfl (Nat.lt_succ_self _)) rfl

end Task

namespace Invocation

@[simp] theorem tell_tally (hook : Option Bool) (h : Happening) (m : Task.Moment) :
    (tell hook h m).2.tally = m.tally := by
  cases hook with
  | none => rfl
  | some cancels => cases cancels <;> rfl

/-- The start hook takes nothing from the time of a call. -/
theorem deadlineOf_startOf {σ : Type} (i : Invoker σ) (c : Context) (m : Task.Moment) :
    i.deadlineOf c (startOf c m) = i.deadlineOf c m := by
  have hnow : (startOf c m).now = m.now := tell_now _ _ _
  simp only [Invoker.deadlineOf, Task.Moment.after, hnow]

end Invocation

namespace Toolbox

open Amanuensis.Task Invocation
open Generation (ComesTo Order Sent)

variable {options : Research.Poll.Options} {t : Tool} {params : Json} {order : Order}
variable {e : Setting Tool.Progress} {race : Race} {m : Moment}

/-! ## What is asked -/

/-- The request of an order. -/
def requestOf (order : Order) : Client.Request := .generate order.endpoint order.body

/-- The request of an order that is read from an object is made of the
object. -/
theorem Orders.sent {members : List (String × Json)} (h : Orders (.obj members) t order) :
    Sent (.obj members) order order.endpoint order.body := by
  cases h with
  | image hread => exact Generation.sent_image (Tool.readParams_eq_ok hread)
  | document hread => exact Generation.sent_document (Tool.readParams_eq_ok hread)

/-- Without an order the handler fails at once. -/
theorem step_unread (ht : t = image ∨ t = document) (h : ∀ order, ¬ Orders params t order)
    (options : Research.Poll.Options) : ∃ message, ∀ now cancelled,
    step options now cancelled (.begin t.name params) =
      .settle (.failure (.validation message) []) := by
  obtain rfl | rfl := ht
  · cases hread : Tool.readParams image.name Generation.ImageOrder.decode params with
    | ok o => exact absurd (.image hread) (h _)
    | error f =>
      obtain ⟨message, rfl⟩ := Tool.exists_message hread
      refine ⟨message, fun now cancelled => ?_⟩
      rw [step, if_neg (by decide), if_pos rfl, hread]
      rfl
  · cases hread : Tool.readParams document.name Generation.DocumentOrder.decode params with
    | ok o => exact absurd (.document hread) (h _)
    | error f =>
      obtain ⟨message, rfl⟩ := Tool.exists_message hread
      refine ⟨message, fun now cancelled => ?_⟩
      rw [step, if_neg (by decide), if_neg (by decide), if_pos rfl, hread]
      rfl

/-- Nothing is asked once the request of an order is over. -/
theorem requestsOf_generated (answer : Option (Except Client.Error Json)) (moves : Nat)
    (m : Moment) :
    requestsOf (runFrom (step options) e race moves m (.generated order answer)).effects = [] := by
  cases moves with
  | zero => rfl
  | succ moves =>
    match answer with
    | none => rfl
    | some (.error _) => rfl
    | some (.ok _) => rfl

/-- **An order is one request**, whatever becomes of it. -/
theorem requestsOf_order (h : Orders params t order) (moves : Nat) :
    requestsOf (((handlers options).task t.name params).run e race (moves + 2) m).effects =
      [(requestOf order, m.now)] := by
  have hnotice := h.step options m.now (m.cancelled e.signalled)
  have hrun : ((handlers options).task t.name params).run e race (moves + 2) m =
      (runFrom (step options) e race (moves + 1) (e.told m ⟨order.notice, none⟩)
        (.noticed order)).after (e.heard ⟨order.notice, none⟩ m.now) :=
    runFrom_told hnotice (moves + 1)
  rw [hrun, Record.after, requestsOf_append, requestsOf_heard, List.nil_append,
    ← e.told_now ⟨order.notice, none⟩]
  generalize e.told m ⟨order.notice, none⟩ = m'
  have hask : step options m'.now (m'.cancelled e.signalled) (.noticed order) =
      .ask (requestOf order) false fun answer => .generated order answer := rfl
  simp only [runFrom, hask, turn_ask (Bool.false_and _)]
  split
  · rfl
  · rfl
  · rename_i hresume
    obtain ⟨w, -, hw⟩ := Option.map_eq_some_iff.1 hresume
    cases hw
    refine (requestsOf_append _ _).trans ?_
    exact congrArg ([(requestOf order, m'.now)] ++ ·) (requestsOf_generated w.2 moves _)

/-- The moment at which the request of an order has been sent. -/
def askedAt (e : Setting Tool.Progress) (m : Moment) (order : Order) : Moment :=
  e.sent (e.told m ⟨order.notice, none⟩) (requestOf order)

/-- What the handler of an order settles with, by the answer of the service. -/
def verdictOn (order : Order) : Except Client.Error Json → Tool.Verdict
  | .ok j => verdictOf (order.output j)
  | .error e => .failure e.toFailure []

theorem step_generated (now : Instant) (cancelled : Bool) (answer : Except Client.Error Json) :
    step options now cancelled (.generated order (some answer)) =
      .settle (verdictOn order answer) := by
  cases answer <;> rfl

/-- **An order that no rival cuts off** is over with the answer to its
request. -/
theorem run_order (h : Orders params t order) {deadline : Option Instant} {delay : Nat}
    {answer : Except Client.Error Json}
    (hdelay : (e.client.reply m.tally (requestOf order)).delay = some delay)
    (hending : (e.client.reply m.tally (requestOf order)).ending = some answer)
    (hopen : Unrivalled ((askedAt e m order).seen e.signalled) deadline (due m.now delay + 1))
    (moves : Nat) :
    ((handlers options).task t.name params).run e (.against deadline) (moves + 3) m =
      ⟨e.heard ⟨order.notice, none⟩ m.now ++ [.asked (requestOf order) m.now],
        .settled (verdictOn order answer), (askedAt e m order).goto (due m.now delay)⟩ := by
  have hrun : ((handlers options).task t.name params).run e (.against deadline) (moves + 3) m =
      (runFrom (step options) e (.against deadline) (moves + 2) (e.told m ⟨order.notice, none⟩)
        (.noticed order)).after (e.heard ⟨order.notice, none⟩ m.now) :=
    runFrom_told (h.step options m.now (m.cancelled e.signalled)) (moves + 2)
  have hnow : (e.told m ⟨order.notice, none⟩).now = m.now := e.told_now _
  rw [← e.told_tally ⟨order.notice, none⟩] at hdelay hending
  rw [askedAt, ← hnow] at hopen
  rw [hrun, askedAt, ← hnow]
  generalize e.told m ⟨order.notice, none⟩ = m' at hdelay hending hopen ⊢
  have hask : step options m'.now (m'.cancelled e.signalled) (.noticed order) =
      .ask (requestOf order) false fun answer => .generated order answer := rfl
  have hsettled : ∀ m'', runFrom (step options) e (.against deadline) (moves + 1) m''
      (.generated order (some answer)) = ⟨[], .settled (verdictOn order answer), m''⟩ :=
    fun m'' => runFrom_of_error moves (by rw [Setting.turnAt, step_generated]; rfl)
  have hanswered : runFrom (step options) e (.against deadline) (moves + 2) m' (.noticed order) =
      ⟨[.asked (requestOf order) m'.now], .settled (verdictOn order answer),
        (e.sent m' (requestOf order)).goto (due m'.now delay)⟩ :=
    (runFrom_answered hask hdelay hending hopen (moves + 1)).trans
      (congrArg (Record.after _) (hsettled _))
  rw [hanswered]
  rfl

/-! ## Whole calls -/

/-- The verdict on an order is what it comes to. -/
theorem normalize_verdictOn (h : Orders params t order) (answer : Except Client.Error Json) :
    ComesTo order answer ((verdictOn order answer).normalize t) := by
  have ht : t = toolOf order := by cases h <;> rfl
  rw [ht]
  cases answer with
  | error e => exact Generation.comesTo_error order e
  | ok j =>
    have hcomes := Generation.comesTo_output order j
    have hfits := output_fits order j
    rw [verdictOn]
    cases houtput : order.output j with
    | error f =>
      rw [houtput] at hcomes
      exact hcomes
    | ok output =>
      rw [houtput] at hcomes hfits
      have hnormal : (verdictOf (.ok output)).normalize (toolOf order) = .ok output := if_pos hfits
      rw [hnormal]
      exact hcomes

section Calls

variable {i : Invoker Machine} {client : Client} {c : Context}

/-- The call is neither cancelled nor out of time before its request is answered:
the service takes so long, and answers so. -/
structure Served (i : Invoker Machine) (client : Client) (c : Context) (m : Moment)
    (order : Order) (span : Nat) (answer : Except Client.Error Json) : Prop where
  delay : (client.reply m.tally (requestOf order)).delay = some span
  ending : (client.reply m.tally (requestOf order)).ending = some answer
  /-- Nobody has cancelled the caller's signal: neither the caller, nor a hook
  that is told something until then, nor the service. -/
  uncancelled : ∀ s, (askedAt (settingOf client c) (startOf c m) order).seen c.signalled =
    some s → due m.now span < s
  inTime : ∀ d, i.deadlineOf c m = some d → due m.now span < d

/-- A signal that is cancelled at some instant before the handler of an order is
entered is so, or earlier, when its request has been sent. -/
theorem exists_seen_askedAt {signalled : Bool} {s : Instant} (e : Setting Tool.Progress)
    (order : Order) (h : m.seen signalled = some s) :
    ∃ s' ≤ s, (askedAt e m order).seen signalled = some s' := by
  have hreport : e.turn m (.report ⟨order.notice, none⟩ (.noticed order) : Move) =
      .ok ⟨_, e.told m ⟨order.notice, none⟩, _⟩ := turn_report _ _
  obtain ⟨s₁, hle₁, hseen₁⟩ := exists_seen_le hreport h
  have hask : e.turn (e.told m ⟨order.notice, none⟩)
      (.ask (requestOf order) false fun answer => .generated order answer : Move) =
        .ok ⟨_, askedAt e m order, _⟩ := turn_ask (Bool.false_and _) _
  obtain ⟨s₂, hle₂, hseen₂⟩ := exists_seen_le hask hseen₁
  exact ⟨s₂, Nat.le_trans hle₂ hle₁, hseen₂⟩

namespace Served

variable {span : Nat} {answer : Except Client.Error Json}

/-- Its signal is not cancelled by the time it is entered. -/
theorem start_uncancelled (h : Served i client c m order span answer) :
    (startOf c m).cancelled c.signalled = false := by
  rw [Bool.eq_false_iff]
  intro hcancelled
  obtain ⟨s, hseen, hle⟩ := Moment.cancelled_iff.1 hcancelled
  obtain ⟨s', hle', hseen'⟩ := exists_seen_askedAt (settingOf client c) order hseen
  have hnow : s ≤ m.now := hle.trans_eq (tell_now _ _ _)
  have hlate : m.now < s' := Nat.lt_of_le_of_lt (le_due _ span) (h.uncancelled s' hseen')
  exact absurd (Nat.lt_of_lt_of_le hlate hle') (Nat.not_lt.2 hnow)

theorem accepted (h : Served i client c m order span answer)
    (hfound : i.registry.get? t.name = some t) (hchecked : t.check params = .ok ()) :
    Accepted i t.name params c m t := by
  refine ⟨hfound, hchecked, Bool.eq_false_iff.2 fun hcancelled => ?_⟩
  exact Bool.eq_false_iff.1 h.start_uncancelled (startOf_cancelled hcancelled)

/-- Its handler is entered. -/
theorem rivalOf_eq_none (h : Served i client c m order span answer) : i.rivalOf c m = none := by
  refine Invocation.rivalOf_eq_none h.start_uncancelled fun hdeadline => ?_
  have hnow : (startOf c m).now = m.now := tell_now _ _ _
  have hlate := h.inTime (startOf c m).now ((deadlineOf_startOf i c m).symm.trans hdeadline)
  exact absurd (Nat.lt_of_le_of_lt (le_due _ span) hlate) (Nat.not_lt.2 (Nat.le_of_eq hnow))

end Served

theorem requestsIn_of_refused {name : String} {f : Failure} (h : Refused i name params c m f)
    (client : Client) (moves : Nat) :
    requestsIn (i.invoke client moves name params c m).trace = [] := by
  rw [requestsIn, (invoke_refused h client moves).2.1]
  exact congrArg requestsOf (filterMap_closing _ (fun _ => rfl) (fun _ => rfl) (fun _ => rfl) _)

theorem requestsIn_of_open (h : Accepted i t.name params c m t) (hopen : i.rivalOf c m = none)
    (client : Client) (moves : Nat) :
    requestsIn (i.invoke client moves t.name params c m).trace =
      requestsOf (i.runOf client moves t params c m).effects := by
  rw [requestsIn, h.effectsOf_eq, courseOf_of_open hopen]
  exact congrArg requestsOf (effectsOf_effects _)

/-- What a call asks is what its handler asks, if that is entered. -/
theorem requestsIn_cases (hfound : i.registry.get? t.name = some t) (client : Client)
    (params : Json) (c : Context) (m : Moment) (moves : Nat) :
    requestsIn (i.invoke client moves t.name params c m).trace = [] ∨
      requestsIn (i.invoke client moves t.name params c m).trace =
        requestsOf (i.runOf client moves t params c m).effects := by
  obtain ⟨f, hrefused⟩ | ⟨t', haccepted⟩ := refused_or_accepted i t.name params c m
  · exact .inl (requestsIn_of_refused hrefused client moves)
  · obtain rfl : t' = t := Option.some.inj (haccepted.found.symm.trans hfound)
    cases hrival : i.rivalOf c m with
    | none => exact .inr (requestsIn_of_open haccepted hrival client moves)
    | some w => exact .inl (call_lost haccepted ⟨w.1, hrival⟩ client moves).2

/-- A call whose parameters are not an order asks nothing, and fails. -/
theorem call_unread (hhandlers : i.handlers = handlers options)
    (hfound : i.registry.get? t.name = some t) (ht : t = image ∨ t = document)
    (hunread : ∀ order, ¬ Orders params t order) (client : Client) (c : Context) (m : Moment)
    (moves : Nat) :
    requestsIn (i.invoke client moves t.name params c m).trace = [] ∧
      ∀ o, (i.invoke client moves t.name params c m).answer ≠ some (.ok o) := by
  obtain ⟨message, hstep⟩ := step_unread ht hunread options
  -- the handler settles with its first move, before it has asked anything
  have hrun : (i.runOf client moves t params c m).effects = [] ∧
      ∀ v, (i.runOf client moves t params c m).outcome = .settled v →
        v = .failure (.validation message) [] := by
    rw [Invoker.runOf, hhandlers]
    cases moves with
    | zero => exact ⟨rfl, by rintro v ⟨⟩⟩
    | succ moves =>
      have hfirst : (settingOf client c).turnAt (step options) (startOf c m)
          (.begin t.name params) = .error (.failure (.validation message) []) := by
        rw [Setting.turnAt, hstep]
        rfl
      have hover : ((handlers options).task t.name params).run (settingOf client c)
          (.against (i.deadlineOf c (startOf c m))) (moves + 1) (startOf c m) =
            ⟨[], .settled (.failure (.validation message) []), startOf c m⟩ :=
        runFrom_of_error moves hfirst
      rw [hover]
      refine ⟨rfl, fun v hv => ?_⟩
      cases hv
      rfl
  constructor
  · obtain hnone | hsome := requestsIn_cases hfound client params c m moves
    · exact hnone
    · rw [hsome, hrun.1]
      rfl
  · intro o ho
    obtain ⟨f, -, hf⟩ | ⟨t', haccepted, hcourse⟩ := answer_cases ho
    · cases hf
    · obtain rfl : t' = t := Option.some.inj (haccepted.found.symm.trans hfound)
      obtain ⟨rival, hf⟩ | ⟨v, hsettled, hv⟩ := hcourse
      · cases hf
      · rw [hrun.2 v hsettled] at hv
        cases hv

/-- A call whose parameters are an order makes its request at most. -/
theorem call_asks_once (hhandlers : i.handlers = handlers options)
    (hfound : i.registry.get? t.name = some t) (horder : Orders params t order)
    (client : Client) (c : Context) (m : Moment) (moves : Nat) :
    requestsIn (i.invoke client moves t.name params c m).trace <+: [(requestOf order, m.now)] := by
  obtain hnone | hsome := requestsIn_cases hfound client params c m moves
  · rw [hnone]
    exact List.nil_prefix
  · have hnow : (startOf c m).now = m.now := tell_now _ _ _
    have hone : requestsOf (i.runOf client (moves + 2) t params c m).effects =
        [(requestOf order, m.now)] := by
      rw [Invoker.runOf, hhandlers, ← hnow]
      exact requestsOf_order horder moves
    have hshorter : (i.runOf client moves t params c m).effects <+:
        (i.runOf client (moves + 2) t params c m).effects :=
      runFrom_effects_prefix (Nat.le_add_right moves 2)
    rw [hsome, ← hone]
    exact hshorter.filterMap _

/-- **A call that is served** is over with the answer to its one request. -/
theorem call_served (hhandlers : i.handlers = handlers options)
    (hfound : i.registry.get? t.name = some t) (hchecked : t.check params = .ok ())
    (horder : Orders params t order) {span : Nat} {answer : Except Client.Error Json}
    (hserved : Served i client c m order span answer) (moves : Nat) :
    requestsIn (i.invoke client (moves + 3) t.name params c m).trace =
        [(requestOf order, m.now)] ∧
      (i.invoke client (moves + 3) t.name params c m).moment.now = due m.now span ∧
      (i.invoke client (moves + 3) t.name params c m).answer =
        some ((verdictOn order answer).normalize t) := by
  have hnow : (startOf c m).now = m.now := tell_now _ _ _
  have htally : (startOf c m).tally = m.tally := tell_tally _ _ _
  have haccepted := hserved.accepted hfound hchecked
  have hopen : Unrivalled ((askedAt (settingOf client c) (startOf c m) order).seen c.signalled)
      (i.deadlineOf c m) (due m.now span + 1) := ⟨hserved.uncancelled, hserved.inTime⟩
  have hdelay := hserved.delay
  have hending := hserved.ending
  rw [← hnow] at hopen
  rw [← htally] at hdelay hending
  -- the run of the handler, which nothing cuts off
  have hrun : i.runOf client (moves + 3) t params c m =
      ⟨(settingOf client c).heard ⟨order.notice, none⟩ (startOf c m).now ++
          [.asked (requestOf order) (startOf c m).now],
        .settled (verdictOn order answer),
        (askedAt (settingOf client c) (startOf c m) order).goto
          (due (startOf c m).now span)⟩ := by
    rw [Invoker.runOf, hhandlers, deadlineOf_startOf]
    exact run_order horder hdelay hending hopen moves
  refine ⟨?_, ?_, ?_⟩
  · rw [requestsIn_of_open haccepted hserved.rivalOf_eq_none, hrun, requestsOf_append,
      requestsOf_heard, hnow]
    rfl
  · rw [haccepted.now_eq, courseOf_of_open hserved.rivalOf_eq_none, hrun, hnow]
    rfl
  · rw [(invoke_accepted haccepted client (moves + 3)).1,
      courseOf_of_open hserved.rivalOf_eq_none, hrun]
    rfl

end Calls

/-- **A call for an image or a document is one request and its answer**,
whatever its parameters, its context and the service are:

- If its parameters cannot be read it asks nothing, and fails.
- If they can, and are let through, it makes no other request than the one that
  is made of them, and that one only once, even if it is cancelled or out of
  time.
- If it is neither of these before the service has answered, it makes this
  request, returns when it is answered, and comes to what the answer says: to an
  output if and only if that is a value with an address, to a failure of its own
  if it is any other value, and to the failure of the error if it is one. -/
theorem call_generates (options : Research.Poll.Options) (i : Invoker Machine) (t : Tool)
    (hhandlers : i.handlers = handlers options) (hfound : i.registry.get? t.name = some t)
    (ht : t = image ∨ t = document) (client : Client) (params : Json) (c : Context)
    (m : Moment) :
    let call := fun moves => i.invoke client moves t.name params c m
    ((∀ order, ¬ Orders params t order) → ∀ moves,
      requestsIn (call moves).trace = [] ∧ ∀ o, (call moves).answer ≠ some (.ok o)) ∧
    ∀ order, Orders params t order → t.check params = .ok () →
      ∃ endpoint body, Sent params order endpoint body ∧
        (∀ moves, requestsIn (call moves).trace <+: [(.generate endpoint body, m.now)]) ∧
        ∀ span answer, Served i client c m order span answer → ∀ moves, 3 ≤ moves →
          requestsIn (call moves).trace = [(.generate endpoint body, m.now)] ∧
          (call moves).moment.now = due m.now span ∧
          ∃ result, (call moves).answer = some result ∧ ComesTo order answer result := by
  intro call
  refine ⟨fun hunread => call_unread hhandlers hfound ht hunread client c m,
    fun order horder hchecked => ?_⟩
  obtain ⟨members, rfl⟩ := Tool.exists_members hchecked
  refine ⟨order.endpoint, order.body, horder.sent,
    call_asks_once hhandlers hfound horder client c m, fun span answer hserved moves hmoves => ?_⟩
  obtain ⟨more, rfl⟩ := Nat.exists_eq_add_of_le' hmoves
  obtain ⟨hrequests, hnow, hanswer⟩ := call_served hhandlers hfound hchecked horder hserved more
  exact ⟨hrequests, hnow, _, hanswer, normalize_verdictOn horder answer⟩

/-- A call that nobody cancels and that may take its time is served as soon as the
service answers. -/
theorem served_of_patient {i : Invoker Machine} {client : Client} {m : Moment} {order : Order}
    {span : Nat} {answer : Except Client.Error Json} (hpatient : i.defaultTimeout = none)
    (hdelay : (client.reply m.tally (requestOf order)).delay = some span)
    (hending : (client.reply m.tally (requestOf order)).ending = some answer) :
    Served i client .bare m order span answer where
  delay := hdelay
  ending := hending
  uncancelled := by
    rintro s ⟨⟩
  inTime := by
    have hnone : i.deadlineOf .bare m = none := by
      rw [Invoker.deadlineOf, Invoker.timeoutOf, hpatient]
      rfl
    rw [hnone]
    rintro d ⟨⟩

/-- A picture of a cat in ink: the ink is not asked for. A document without a
format and a name comes as a `docx` that is called after its title. And a picture
of nothing is not asked for at all. -/
theorem studio_generates :
    let call := fun t params => builtIn.invoke studio 3 (Tool.name t) params .bare (.start none)
    let cat := call image (.obj [("prompt", .str "a cat"), ("style", .str "ink")])
    let notes := call document (.obj [("content", .str "# Notes"), ("title", .str "My Notes")])
    (requestsIn cat.trace =
        [(.generate "image-generation" (.obj [("prompt", .str "a cat")]), 0)] ∧
      cat.answer = some (.ok (.image "cat.png"))) ∧
    (requestsIn notes.trace =
        [(.generate "document-generation" (.obj [("content", .str "# Notes"),
          ("format", .str "docx"), ("title", .str "My Notes")]), 0)] ∧
      notes.answer = some (.ok (.file "cat.png" "my-notes.docx"))) ∧
    requestsIn (call image (.obj [("prompt", .bool true)])).trace = [] := by
  intro call cat notes
  let answer : Json := .obj [("url", .str "cat.png")]
  have hserved : ∀ order, Served builtIn studio .bare (.start none) order 1000000000
      (.ok answer) := fun order => served_of_patient rfl rfl rfl
  have hgenerates := fun t hfound ht params => call_generates .standard builtIn t rfl hfound ht
    studio params .bare (.start none)
  refine ⟨?_, ?_, ?_⟩
  · have horder : Orders (.obj [("prompt", .str "a cat"), ("style", .str "ink")]) image
        (.image ⟨"a cat", none⟩) := .image rfl
    obtain ⟨endpoint, body, hsent, -, hcall⟩ :=
      (hgenerates image rfl (.inl rfl) _).2 _ horder (by decide)
    cases hsent
    obtain ⟨hrequests, -, result, hanswer, hcomes⟩ := hcall _ _ (hserved _) 3 (Nat.le_refl 3)
    refine ⟨hrequests, hanswer.trans (congrArg some ?_)⟩
    exact (hcomes.generated _).2 ⟨answer, "cat.png", rfl, rfl, rfl⟩
  · have horder : Orders (.obj [("content", .str "# Notes"), ("title", .str "My Notes")]) document
        (.document ⟨"# Notes", .docx, some "My Notes"⟩) := .document rfl
    obtain ⟨endpoint, body, hsent, -, hcall⟩ :=
      (hgenerates document rfl (.inr rfl) _).2 _ horder (by decide)
    have hname : Generation.defaultFilename (some "My Notes") .docx = "my-notes.docx" := by
      decide +kernel
    cases hsent
    obtain ⟨hrequests, -, result, hanswer, hcomes⟩ := hcall _ _ (hserved _) 3 (Nat.le_refl 3)
    refine ⟨hrequests, hanswer.trans (congrArg some ?_)⟩
    rw [← hname]
    exact (hcomes.generated _).2 ⟨answer, "cat.png", rfl, rfl, rfl⟩
  · have hunread : ∀ t order, Orders (.obj [("prompt", .bool true)]) t order → t ≠ image := by
      intro t order horder
      cases horder with
      | image hread => cases hread
      | document _ => decide
    exact ((hgenerates image rfl (.inl rfl) _).1 (fun order h => hunread _ _ h rfl) 3).1

end Toolbox

end Amanuensis
