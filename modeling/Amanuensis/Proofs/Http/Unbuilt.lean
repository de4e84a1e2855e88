import Amanuensis.Http.Exchange
import Amanuensis.Proofs.Http.JobAddress
import Amanuensis.Proofs.Toolbox.Dispatch
import Amanuensis.Proofs.Url.Faults
/-!
# Requests that cannot be built

What becomes of a request if the base of the service is no address. No path
below it is one either (`parse_trimBase`), so no message is built
(`unbuilt_of_unreadable`). A question about a job is refused as a request that
makes no sense, and is not repeated (`poll_asks_once`). An order for a job or
for something generated is not: it fails as if the connection had failed, and
the tools hand that on as something that may be tried again (`study_unbuilt`,
`order_unbuilt`).
-/


namespace Amanuensis

namespace Task

variable {σ ε ρ α : Type} {m : Moment} {signalled : Bool}

/-- A reply that ends at once is the answer, if the signal is not cancelled. -/
theorem Moment.answer_atOnce {r : Client.Reply α} {a : Except Client.Error α}
    (hdelay : r.delay = some 0) (hending : r.ending = some a) (hnow : m.now < clockReach)
    (huncancelled : m.cancelled signalled = false) : m.answer signalled r = some (m.now, a) := by
  have hafter : m.after 0 = m.now := due_of_lt hnow
  have hwait : m.await signalled (some m.now) r.heeds = some (m.now, .elapsed) := by
    cases hseen : (if r.heeds then m.seen signalled else none) with
    | none => simp only [Moment.await, hseen]
    | some s =>
      have hlater : ¬ s ≤ m.now := by
        intro hle
        split at hseen
        · rw [Moment.cancelled_of_seen hseen hle] at huncancelled
          cases huncancelled
        · cases hseen
      simp only [Moment.await, hseen, if_neg hlater]
  rw [Moment.answer, hdelay, Option.map_some, hafter, hwait]
  simp only [hending]

variable {step : Instant → Bool → σ → Move σ ε ρ} {e : Setting ε} {s : σ}

/-- So a request with such a reply is over in the turn that makes it. -/
theorem turn_ask_atOnce {q : Client.Request} {a : Except Client.Error q.Answer}
    (hreply : e.client.reply m.tally q = ⟨false, some 0, true, some a⟩) (hnow : m.now < clockReach)
    (huncancelled : m.cancelled e.signalled = false)
    (next : Option (Except Client.Error q.Answer) → σ) :
    e.turn m (.ask q false next : Move σ ε ρ) =
      .ok ⟨[.asked q m.now], e.sent m q, some (m.now, next (some a))⟩ := by
  have hanswer : (e.sent m q).answer e.signalled (e.client.reply m.tally q) = some (m.now, a) := by
    rw [Setting.sent, hreply]
    exact Moment.answer_atOnce rfl rfl hnow huncancelled
  rw [turn_ask (Bool.false_and _), Moment.reception_unheeding, hanswer]
  rfl

/-- Telling an event takes no time. -/
theorem Setting.told_goto (e : Setting ε) (m : Moment) (event : ε) :
    (e.told m event).goto m.now = e.told m event :=
  calc (e.told m event).goto m.now
      = (e.told m event).goto (e.told m event).now := by rw [Setting.told_now]
    _ = e.told m event := rfl

/-- **A run makes no more requests than are left** at its beginning, if no turn
makes more than it takes off. -/
theorem requests_le_left {left : σ → Nat → Prop}
    (hturns : ∀ m s n turn, left s n → e.turnAt step m s = .ok turn →
      (requestsOf turn.effects).length ≤ n ∧
        ∀ w, turn.resume = some w → ∃ k, left w.2 k ∧ (requestsOf turn.effects).length + k ≤ n)
    (race : Race) (moves : Nat) (m : Moment) {n : Nat} (hs : left s n) :
    (requestsOf (runFrom step e race moves m s).effects).length ≤ n := by
  induction moves generalizing m s n with
  | zero => exact Nat.zero_le n
  | succ moves ih =>
    cases hturn : e.turnAt step m s with
    | error result =>
      rw [runFrom_of_error moves hturn]
      exact Nat.zero_le n
    | ok turn =>
      obtain ⟨hlast, hnext⟩ := hturns m s n turn hs hturn
      cases hbeats : race.beats e.signalled turn with
      | some w =>
        rw [runFrom_of_beats moves hturn hbeats]
        exact hlast
      | none =>
        cases hresume : turn.resume with
        | none =>
          rw [runFrom_of_stuck moves hturn hbeats hresume]
          exact hlast
        | some w =>
          obtain ⟨k, hleft, hle⟩ := hnext w hresume
          rw [runFrom_of_resume moves hturn hbeats hresume, Record.after, requestsOf_append,
            List.length_append]
          exact Nat.le_trans (Nat.add_le_add_left (ih _ hleft) _) hle

end Task

namespace Client

/-- The error of a message whose address is none. -/
def builderError : Error := .network "builder error"

/-- The error of a question about a job whose address is none. -/
def baseError (fault : Url.Fault) : Error := .invalidRequest ("invalid base url: " ++ fault.message)

/-- A client that builds no message, because its base is no address. Only
questions about jobs are refused as such; the other requests fail like the
connection, unless the signal is cancelled. -/
structure Unbuilt (client : Client) (fault : Url.Fault) : Prop where
  status : ∀ tally jobId, client.reply tally (.status jobId) = .now (.error (baseError fault))
  create : ∀ tally order,
    client.reply tally (.create order) = ⟨false, some 0, true, some (.error builderError)⟩
  generate : ∀ tally endpoint body,
    client.reply tally (.generate endpoint body) = ⟨false, some 0, true, some (.error builderError)⟩

end Client

open Amanuensis.Task

variable {fault : Url.Fault}

/-! ## Research -/

namespace Research

variable {e : Setting Poll.Event} {m : Moment} {o : Poll.Options} {tally : Client.Tally}

/-- How many questions are left to a poll that does not repeat any. -/
inductive Poll.Left (o : Poll.Options) : Poll.Machine → Nat → Prop where
  | begin (c : Poll.Course) : Poll.Left o (c, .begin) 1
  | rested (c : Poll.Course) (how : Wake) : Poll.Left o (c, .rested how) 1
  | answered (c : Poll.Course) (failures : UInt32) (answer : Option (Except Client.Error State)) :
      (∀ now cancelled, ∃ r, Poll.step o now cancelled (c, .answered failures answer) = .settle r) →
      Poll.Left o (c, .answered failures answer) 0

/-- Whatever is received of a question that cannot be built, the poll is over. -/
theorem Poll.settles_unbuilt (hclient : e.client.Unbuilt fault) {jobId : String} {heeds : Bool}
    {t : Instant} {answer : Option (Except Client.Error State)}
    (h : m.reception e.signalled heeds (e.client.reply tally (.status jobId)) = some (t, answer))
    (c : Poll.Course) (failures : UInt32) (now : Instant) (cancelled : Bool) :
    ∃ r, Poll.step o now cancelled (c, .answered failures answer) = .settle r := by
  obtain ⟨a, rfl, hanswer⟩ | ⟨rfl, -⟩ := Moment.reception_cases h
  · obtain htold | ⟨rfl, -⟩ := Moment.answer_cases hanswer
    · have hending := Moment.ending_of_told htold
      rw [hclient.status] at hending
      obtain rfl := Option.some.inj hending
      exact ⟨_, rfl⟩
    · exact ⟨_, rfl⟩
  · exact ⟨_, rfl⟩

/-- A poll makes no more questions in a turn than it takes off. -/
theorem Poll.turn_left (hclient : e.client.Unbuilt fault) {s : Poll.Machine} {n : Nat}
    {turn : Turn Poll.Machine Poll.Event} (hs : Poll.Left o s n)
    (hturn : e.turnAt (Poll.step o) m s = .ok turn) :
    (requestsOf turn.effects).length ≤ n ∧ ∀ w, turn.resume = some w →
      ∃ k, Poll.Left o w.2 k ∧ (requestsOf turn.effects).length + k ≤ n := by
  cases hs with
  | begin c =>
    change e.turn m (Poll.beginSlot o m.now (m.cancelled e.signalled) c) = .ok turn at hturn
    unfold Poll.beginSlot at hturn
    split at hturn
    · cases hturn
    · split at hturn
      · cases hturn
      · cases hturn
        refine ⟨Nat.zero_le 1, fun w hw => ⟨1, ?_, Nat.le_refl 1⟩⟩
        obtain ⟨wake, -, rfl⟩ := Option.map_eq_some_iff.1 hw
        exact .rested c wake.2
  | rested c how =>
    cases how with
    | cancelled => cases hturn
    | elapsed =>
      have hask := hturn
      simp only [Setting.turnAt, Poll.step, Poll.askState, Setting.turn] at hask
      split at hask
      · cases hask
        refine ⟨Nat.zero_le 1, fun w hw => ⟨0, ?_, Nat.zero_le 1⟩⟩
        cases hw
        exact .answered _ 0 none fun _ _ => ⟨_, rfl⟩
      · cases hask
        refine ⟨Nat.le_refl 1, fun w hw => ⟨0, ?_, Nat.le_refl 1⟩⟩
        obtain ⟨received, hreceived, rfl⟩ := Option.map_eq_some_iff.1 hw
        exact .answered _ 0 received.2 (Poll.settles_unbuilt hclient hreceived _ 0)
  | answered c failures answer hsettles =>
    obtain ⟨r, hr⟩ := hsettles m.now (m.cancelled e.signalled)
    rw [Setting.turnAt, hr] at hturn
    cases hturn

/-- **A poll does not repeat a question that cannot be built.** -/
theorem poll_asks_once (hclient : e.client.Unbuilt fault) (o : Poll.Options) (jobId : String)
    (now : Instant) (race : Race) (moves : Nat) (m : Moment) :
    (requestsOf ((poll o jobId now).run e race moves m).effects).length ≤ 1 :=
  requests_le_left (fun _ _ _ _ => Poll.turn_left hclient) race moves m (.begin _)

/-- **A study over such a client fails with its order**, and as if trying again
might help. -/
theorem study_unbuilt (hclient : e.client.Unbuilt fault) {p : Study.Plan} (hquery : ¬ p.Blank)
    (huncancelled : m.cancelled e.signalled = false) (hnow : m.now < clockReach) (moves : Nat) :
    ((study p).run e .free (moves + 2) m).effects = [.asked (.create p.order) m.now] ∧
      ((study p).run e .free (moves + 2) m).outcome =
        .settled (.error Client.builderError.toFailure) := by
  have hanswer : Study.answerOf e p m = some (m.now, .error Client.builderError) := by
    rw [Study.answerOf, Setting.sent, hclient.create]
    exact Moment.answer_atOnce rfl rfl hnow huncancelled
  rw [Study.run_of_settle hquery huncancelled hanswer fun _ => rfl]
  exact ⟨rfl, rfl⟩

end Research

/-! ## Images and documents -/

namespace Toolbox

variable {e : Setting Tool.Progress} {m : Moment} {t : Tool} {params : Json}
variable {order : Generation.Order}

/-- Once its notice is out, an order fails with its one request. -/
theorem noticed_unbuilt (hclient : e.client.Unbuilt fault)
    (huncancelled : m.cancelled e.signalled = false) (hnow : m.now < clockReach)
    (options : Research.Poll.Options) (order : Generation.Order) (moves : Nat) :
    runFrom (step options) e .free (moves + 2) m (.noticed order) =
      ⟨[.asked (.generate order.endpoint order.body) m.now],
        .settled (.failure Client.builderError.toFailure []),
        (e.sent m (.generate order.endpoint order.body)).goto m.now⟩ := by
  have hask : e.turnAt (step options) m (.noticed order) =
      .ok ⟨[.asked (.generate order.endpoint order.body) m.now],
        e.sent m (.generate order.endpoint order.body),
        some (m.now, .generated order (some (.error Client.builderError)))⟩ :=
    turn_ask_atOnce (hclient.generate _ _ _) hnow huncancelled _
  have hsettle : ∀ m', e.turnAt (step options) m'
      (.generated order (some (.error Client.builderError))) =
        .error (.failure Client.builderError.toFailure []) := fun _ => rfl
  rw [runFrom_of_resume (moves + 1) hask (Race.beats_free _ _) rfl,
    runFrom_of_error moves (hsettle _)]
  rfl

/-- **Images and documents fail with their one request** over such a client,
and as if trying again might help. -/
theorem order_unbuilt (hclient : e.client.Unbuilt fault) (horder : Orders params t order)
    (huncancelled : (e.told m ⟨order.notice, none⟩).cancelled e.signalled = false)
    (hnow : m.now < clockReach) (options : Research.Poll.Options) (moves : Nat) :
    (((handlers options).task t.name params).run e .free (moves + 3) m).effects =
        e.heard ⟨order.notice, none⟩ m.now ++
          [.asked (.generate order.endpoint order.body) m.now] ∧
      (((handlers options).task t.name params).run e .free (moves + 3) m).outcome =
        .settled (.failure Client.builderError.toFailure []) := by
  have hnotice : e.turnAt (step options) m (.begin t.name params) =
      .ok ⟨e.heard ⟨order.notice, none⟩ m.now, e.told m ⟨order.notice, none⟩,
        some (m.now, .noticed order)⟩ := by
    rw [Setting.turnAt, horder.step, beginOrder, turn_report]
  have hnow' : (e.told m ⟨order.notice, none⟩).now < clockReach := by
    rw [Setting.told_now]
    exact hnow
  have hfirst := runFrom_of_resume (moves + 2) hnotice (Race.beats_free _ _) rfl
  rw [Setting.told_goto, noticed_unbuilt hclient huncancelled hnow', Setting.told_now] at hfirst
  have hrun : ((handlers options).task t.name params).run e .free (moves + 3) m = _ := hfirst
  rw [hrun]
  exact ⟨rfl, rfl⟩

end Toolbox

/-! ## Bases that are no addresses -/

namespace Http

variable {base : String} {timeout : Duration} {network : Network}

/-- A base that is no address. It does not end in a control or a space, which
would not be its end before a path, and not with the slashes behind its
scheme, before which a path would name the server. -/
structure Unreadable (base : String) (fault : Url.Fault) : Prop where
  refused : Url.parse base = .error fault
  ends : ∀ c ∈ base.toList.getLast?, ' ' < c
  named : Url.isBare base = false

/-- **No path below it is an address.** -/
theorem parse_trimBase (h : Unreadable base fault) {path : String} {rest : List Char}
    (hpath : path.toList = '/' :: rest) : Url.parse (trimBase base ++ path) = .error fault := by
  obtain ⟨n, hbase⟩ := exists_cleaned_base h.ends
  obtain ⟨t, ht⟩ := Url.exists_cleaned_slash rest
  have htext : Url.cleaned (trimBase base ++ path).toList =
      Url.opened (trimBase base).toList ++ '/' :: t := by
    rw [String.toList_append, hpath, Url.cleaned_append (List.cons_ne_nil _ _)
      (Text.beginsApart_cons.2 rfl), ht]
  exact Url.parse_of_fault h.refused hbase h.named htext

/-- **So the client of such a base builds no message.** -/
theorem unbuilt_of_unreadable (h : Unreadable base fault) (timeout : Duration)
    (network : Network) : (Http.client base timeout network).Unbuilt fault := by
  have hresearch : researchPath.toList = '/' :: "api/tools/deep-research".toList := rfl
  have hendpoint : ∀ endpoint,
      (endpointPath endpoint).toList = '/' :: ("api/tools/".toList ++ endpoint.toList) := by
    intro endpoint
    rw [endpointPath, String.toList_append]
    rfl
  constructor
  · intro tally jobId
    have hmessage : messageOf base (.status jobId) = .error (Client.baseError fault) := by
      rw [messageOf, jobStatusUrl, parse_trimBase h hresearch]
      rfl
    simp only [Http.client, hmessage]
    rfl
  · intro tally order
    have hmessage : messageOf base (.create order) = .error Client.builderError := by
      rw [messageOf, postTo, parse_trimBase h hresearch]
      rfl
    simp only [Http.client, hmessage]
    rfl
  · intro tally endpoint body
    have hmessage : messageOf base (.generate endpoint body) = .error Client.builderError := by
      rw [messageOf, postTo, parse_trimBase h (hendpoint endpoint)]
      rfl
    simp only [Http.client, hmessage]
    rfl

/-- **What becomes of requests if the base is no address**, whatever is asked
and whatever the network is. A question about a job is refused, as something
that makes no sense and is not tried again. An order for a job, an image or a
document is made once and fails like the connection, as something that may be
tried again. -/
theorem requests_unbuilt (h : Unreadable base fault) (timeout : Duration) (network : Network) :
    (Http.client base timeout network).Unbuilt fault ∧
      ((Client.baseError fault).toFailure =
          .validation ("invalid base url: " ++ fault.message) ∧
        Client.builderError.toFailure = .network "builder error") ∧
      (∀ (e : Setting Research.Poll.Event) o jobId now race moves m,
        e.client = Http.client base timeout network →
        (requestsOf ((Research.poll o jobId now).run e race moves m).effects).length ≤ 1) ∧
      (∀ (e : Setting Research.Poll.Event) (p : Research.Study.Plan) (m : Moment) moves,
        e.client = Http.client base timeout network → ¬ p.Blank →
        m.cancelled e.signalled = false → m.now < clockReach →
        ((Research.study p).run e .free (moves + 2) m).effects = [.asked (.create p.order) m.now] ∧
          ((Research.study p).run e .free (moves + 2) m).outcome =
            .settled (.error (.network "builder error"))) ∧
      ∀ (e : Setting Tool.Progress) options t params order (m : Moment) moves,
        e.client = Http.client base timeout network → Toolbox.Orders params t order →
        (e.told m ⟨order.notice, none⟩).cancelled e.signalled = false → m.now < clockReach →
        (((Toolbox.handlers options).task t.name params).run e .free (moves + 3) m).effects =
            e.heard ⟨order.notice, none⟩ m.now ++
              [.asked (.generate order.endpoint order.body) m.now] ∧
          (((Toolbox.handlers options).task t.name params).run e .free (moves + 3) m).outcome =
            .settled (.failure (.network "builder error") []) := by
  have hunbuilt := unbuilt_of_unreadable h timeout network
  refine ⟨hunbuilt, ⟨rfl, rfl⟩, ?_, ?_, ?_⟩
  · intro e o jobId now race moves m hclient
    exact Research.poll_asks_once (hclient ▸ hunbuilt) o jobId now race moves m
  · intro e p m moves hclient hquery huncancelled hnow
    exact Research.study_unbuilt (hclient ▸ hunbuilt) hquery huncancelled hnow moves
  · intro e options t params order m moves hclient horder huncancelled hnow
    exact Toolbox.order_unbuilt (hclient ▸ hunbuilt) horder huncancelled hnow options moves

/-- A client whose base is no address. -/
def garbled : Client := Http.client "not a url" (.ofMillis 5000) .unreachable

/-- So a study over it fails with its order. -/
theorem garbled_study :
    Url.parse "not a url" = .error .relative ∧ garbled.Unbuilt .relative ∧
      ((Research.study ⟨"why?", none, [], .standard⟩).run ⟨garbled, true, none⟩ .free 2
        (.start none)).effects = [.asked (.create ⟨"why?", none, []⟩) 0] ∧
      ((Research.study ⟨"why?", none, [], .standard⟩).run ⟨garbled, true, none⟩ .free 2
        (.start none)).outcome = .settled (.error (.network "builder error")) := by
  have hrefused : Url.parse "not a url" = .error .relative := by decide +kernel
  have hunreadable : Unreadable "not a url" .relative :=
    ⟨hrefused, fun _ hc => Option.some.inj hc ▸ (by decide : ' ' < 'l'), by decide +kernel⟩
  have hquery : ¬ (⟨"why?", none, [], .standard⟩ : Research.Study.Plan).Blank := fun h =>
    absurd (List.all_eq_true.2 h) (by decide)
  obtain ⟨hunbuilt, -, -, hstudy, -⟩ :=
    requests_unbuilt hunreadable (.ofMillis 5000) .unreachable
  exact ⟨hrefused, hunbuilt,
    hstudy ⟨garbled, true, none⟩ _ (.start none) 0 rfl hquery rfl (by decide)⟩

/-- **An order below a base that is no address is not refused as such**, but
fails as something that may be tried again; and behind slashes alone the path
names a server, to which the order is sent. -/
theorem order_misreported :
    (Url.parse "not a url" = .error .relative ∧
      (¬ ∃ message, (garbled.reply .zero (.create ⟨"why?", none, []⟩)).ending =
        some (.error (.invalidRequest message))) ∧
      (garbled.reply .zero (.create ⟨"why?", none, []⟩)).ending =
        some (.error (.network "builder error")) ∧
      (Client.Error.network "builder error").toFailure.retryable = true) ∧
    Url.parse "http://" = .error .emptyHost ∧
      Url.parse (trimBase "http://" ++ researchPath) =
        .ok ⟨"http", some ⟨[], none, "api".toList, none⟩,
          .segments ["tools".toList, "deep-research".toList], none, none⟩ := by
  have hpath : Url.parse (trimBase "not a url" ++ researchPath) = .error .relative := by
    decide +kernel
  have hmessage : messageOf "not a url" (.create ⟨"why?", none, []⟩) =
      .error (.network "builder error") := by
    rw [messageOf, postTo, hpath]
    rfl
  have hending : (garbled.reply .zero (.create ⟨"why?", none, []⟩)).ending =
      some (.error (.network "builder error")) := by
    simp only [garbled, Http.client, hmessage]
  refine ⟨⟨by decide +kernel, ?_, hending, rfl⟩, by decide +kernel, by decide +kernel⟩
  rintro ⟨message, hrefused⟩
  rw [hending] at hrefused
  cases Except.error.inj (Option.some.inj hrefused)

end Http

end Amanuensis
