import Amanuensis.Proofs.Invocation.Cancellation
import Amanuensis.Proofs.Match.Trigger
import Amanuensis.Proofs.Toolbox.Calls
import Amanuensis.Proofs.Toolbox.Cancellation
import Amanuensis.Proofs.Toolbox.Verdicts
/-!
# Calls by free text

A text that calls for a tool is put into one parameter of it, without the
trigger. What is put there is trimmed and not empty, so the call never fails
the check of its parameters (`check_params`), and a built-in tool reads it as
nothing but that text (`reads_of_member`). So the first thing that comes of such
a call is a request of the tool that is made of the text (`first_request`),
unless the call is cancelled or out of time at once.
-/


namespace Amanuensis

namespace Tool

/-- A tool that is registered is found under its name. -/
theorem Registry.get?_name {r : Registry} {t : Tool} (h : t ∈ r.tools) :
    r.get? t.name = some t := by
  have hsome : (r.get? t.name).isSome = true := by
    rw [Registry.get?, List.find?_isSome]
    exact ⟨t, h, by simp⟩
  obtain ⟨t', ht'⟩ := Option.isSome_iff_exists.1 hsome
  have hname : t'.name = t.name := by simpa using List.find?_some ht'
  have hmem : t' ∈ r.tools := List.mem_of_find?_eq_some ht'
  rw [ht', List.inj_on_of_nodup_map r.names_nodup hmem h hname]

end Tool

namespace Match

variable {input : String} {route : Route} {r : Router}

theorem mem_rank_of_resolve (h : r.resolve input = some route) : route ∈ r.rank input :=
  List.mem_of_mem_head? h

/-- The parameters hold the text, or nothing for a tool without a primary
parameter. -/
theorem params_eq (route : Route) (input : String) :
    route.params input =
      match route.tool.primary with
      | some key => .obj [(key, .str (route.text input))]
      | none => .obj [] := by
  unfold Route.params
  cases route.tool.primary <;> rfl

theorem text_trimmed (route : Route) (input : String) : Text.Trimmed (route.text input).toList := by
  rw [Route.text, String.toList_ofList]
  exact stripTrigger_trimmed _ _

theorem text_ne_nil (h : Chosen input route) : (route.text input).toList ≠ [] := by
  rw [Route.text, String.toList_ofList]
  exact stripTrigger_ne_nil h.compared.input_ne _

/-- **A call by free text passes its check**, if the tool requires no more than
its primary parameter. -/
theorem check_params (h : Chosen input route)
    (hrequired : ∀ key ∈ route.tool.required, route.tool.primary = some key) :
    route.tool.check (route.params input) = .ok () := by
  have hpresent : ∀ key ∈ route.tool.required,
      route.params input = .obj [(key, .str (route.text input))] := by
    intro key hkey
    rw [params_eq, hrequired key hkey]
  have hkept : Tool.isMissing (some (.str (route.text input))) = false := by
    rw [Tool.isMissing, Text.trim_eq_self (text_trimmed route input), List.isEmpty_eq_false_iff]
    exact text_ne_nil h
  obtain ⟨members, hmembers⟩ : ∃ members, route.params input = .obj members := ⟨_, rfl⟩
  have hnone : (route.tool.required.filter fun key => Tool.isMissing (Json.lookup key members)) =
      [] := by
    refine List.filter_eq_nil_iff.2 fun key hkey => ?_
    obtain rfl : members = [(key, .str (route.text input))] :=
      Json.obj.inj (hmembers.symm.trans (hpresent key hkey))
    rw [Json.lookup, if_pos rfl, hkept]
    exact Bool.false_ne_true
  rw [hmembers, Tool.check, hnone]

end Match

namespace Task

variable {σ ε ρ : Type} {step : Instant → Bool → σ → Move σ ε ρ} {e : Setting ε}
variable {m : Moment} {s : σ}

/-- A run whose first move is a request that does not heed the signal makes
it. -/
theorem runFrom_ask {q : Client.Request} {next : Option (Except Client.Error q.Answer) → σ}
    (h : step m.now (m.cancelled e.signalled) s = .ask q false next) (race : Race)
    (moves : Nat) :
    ∃ rest, requestsOf (runFrom step e race (moves + 1) m s).effects = (q, m.now) :: rest := by
  simp only [runFrom, h, turn_ask (Bool.false_and _)]
  split
  · exact ⟨[], rfl⟩
  · exact ⟨[], rfl⟩
  · exact ⟨_, rfl⟩

/-- One whose first move is a report goes on at once. -/
theorem runFrom_report {event : ε} {next : σ}
    (h : step m.now (m.cancelled e.signalled) s = .report event next) (race : Race)
    (moves : Nat) :
    ∃ m', m'.now = m.now ∧ requestsOf (runFrom step e race (moves + 1) m s).effects =
      requestsOf (runFrom step e race moves m' next).effects := by
  have hturn : e.turnAt step m s =
      .ok ⟨e.heard event m.now, e.told m event, some (m.now, next)⟩ := by
    rw [Setting.turnAt, h, turn_report]
  have hbeats : race.beats e.signalled ⟨e.heard event m.now, e.told m event, some (m.now, next)⟩ =
      none := by
    simp [Race.beats]
  refine ⟨(e.told m event).goto m.now, rfl, ?_⟩
  rw [runFrom_of_resume moves hturn hbeats rfl, Record.after, requestsOf_append, requestsOf_heard,
    List.nil_append]

end Task

namespace Invocation

open Amanuensis.Task

variable {σ : Type} {i : Invoker σ} {c : Context} {m : Moment}

/-- The start hook does not take a cancellation back. -/
theorem startOf_cancelled (h : m.cancelled c.signalled = true) :
    (startOf c m).cancelled c.signalled = true := by
  obtain ⟨s, hseen, hle⟩ := Moment.cancelled_iff.1 h
  have hcancel : ({ m with heard := 0 } : Moment).cancel.cancelled c.signalled = true :=
    Moment.cancelled_of_seen (Moment.seen_cancel (m := { m with heard := 0 }) hseen)
      (Nat.min_le_right _ _)
  unfold startOf tell
  cases c.onStart with
  | none => exact h
  | some cancels =>
    cases cancels with
    | false => exact h
    | true => exact hcancel

/-- A signal that is cancelled when the handler is to be entered is the first
rival, -/
theorem rivalOf_of_cancelled (i : Invoker σ) (h : (startOf c m).cancelled c.signalled = true) :
    ∃ t, i.rivalOf c m = some (t, .signal) := by
  obtain ⟨s, hseen, hle⟩ := Moment.cancelled_iff.1 h
  cases hrival : i.rivalOf c m with
  | none =>
    obtain ⟨w, hfirst, hw⟩ := Race.first_le_seen (i.deadlineOf c (startOf c m)) hseen
    have hnow : w.1 ≤ (startOf c m).now := Nat.le_trans hw (Nat.max_le.2 ⟨hle, Nat.le_refl _⟩)
    simp only [Invoker.rivalOf, Race.lost, hfirst, if_pos hnow] at hrival
    cases hrival
  | some w =>
    obtain ⟨t, rival⟩ := w
    cases rival with
    | signal => exact ⟨t, rfl⟩
    | deadline =>
      obtain ⟨-, hlater⟩ := Race.deadline_of_lost (fun d => le_deadlineOf) hrival
      exact absurd (hlater s hseen) (Nat.not_lt.2 hle)

/-- else a deadline that is there already, -/
theorem rivalOf_of_deadline (h : (startOf c m).cancelled c.signalled = false)
    (hdeadline : i.deadlineOf c (startOf c m) = some (startOf c m).now) :
    ∃ t, i.rivalOf c m = some (t, .deadline) := by
  cases hrival : i.rivalOf c m with
  | none =>
    have hlt := Race.lt_deadline (fun d => le_deadlineOf) hrival _ hdeadline
    exact absurd hlt (Nat.lt_irrefl _)
  | some w =>
    obtain ⟨t, rival⟩ := w
    cases rival with
    | signal => exact absurd (Race.cancelled_of_lost hrival) (Bool.eq_false_iff.1 h)
    | deadline => exact ⟨t, rfl⟩

/-- and else there is none. -/
theorem rivalOf_eq_none (h : (startOf c m).cancelled c.signalled = false)
    (hdeadline : i.deadlineOf c (startOf c m) ≠ some (startOf c m).now) :
    i.rivalOf c m = none := by
  cases hrival : i.rivalOf c m with
  | none => rfl
  | some w =>
    obtain ⟨t, rival⟩ := w
    cases rival with
    | signal => exact absurd (Race.cancelled_of_lost hrival) (Bool.eq_false_iff.1 h)
    | deadline =>
      exact absurd (Race.deadline_of_lost (fun d => le_deadlineOf) hrival).1 hdeadline

end Invocation

namespace Toolbox

open Amanuensis.Task Research Invocation Match

variable {options : Poll.Options} {text : String} {t : Tool} {params : Json}

/-! ## The parameters of a built-in tool -/

/-- What a built-in tool makes of a text in its primary parameter. -/
inductive Reads (text : String) : Tool → Json → Prop
  | research (params : Json) :
      Tool.readParams research.name Inquiry.decode params = .ok ⟨text, none⟩ →
      Reads text research params
  | image (params : Json) :
      Tool.readParams image.name Generation.ImageOrder.decode params = .ok ⟨text, none⟩ →
      Reads text image params
  | document (params : Json) :
      Tool.readParams document.name Generation.DocumentOrder.decode params =
        .ok ⟨text, .docx, none⟩ →
      Reads text document params

/-- What the built-in tools ask of the service when they are called with a text
and nothing else. -/
def firstRequests (text : String) : List (Tool × Client.Request) :=
  [(research, .create ⟨text, none, []⟩),
    (image, .generate "image-generation" (.obj [("prompt", .str text)])),
    (document, .generate "document-generation"
      (.obj [("content", .str text), ("format", .str "docx")]))]

/-- **A text in the primary parameter** of a built-in tool is read as that text,
and all else as its default. -/
theorem reads_of_member (ht : t ∈ all) (text : String) :
    ∃ key, t.primary = some key ∧ Reads text t (.obj [(key, .str text)]) := by
  simp only [all, List.mem_cons, List.not_mem_nil, or_false] at ht
  obtain rfl | rfl | rfl := ht
  · exact ⟨_, rfl, .research _ rfl⟩
  · exact ⟨_, rfl, .image _ rfl⟩
  · exact ⟨_, rfl, .document _ rfl⟩

/-- The built-in tools require their primary parameter and no other. -/
theorem required_eq_primary (ht : t ∈ all) : ∀ key ∈ t.required, t.primary = some key := by
  revert t
  decide

variable {e : Setting Tool.Progress} {race : Race} {m : Moment} {order : Generation.Order}

/-- The tools that order something, and what they make of their parameters. -/
inductive Orders (params : Json) : Tool → Generation.Order → Prop where
  | image {o : Generation.ImageOrder} :
      Tool.readParams image.name Generation.ImageOrder.decode params = .ok o →
      Orders params image (.image o)
  | document {o : Generation.DocumentOrder} :
      Tool.readParams document.name Generation.DocumentOrder.decode params = .ok o →
      Orders params document (.document o)

/-- They begin with their order. -/
theorem Orders.step (h : Orders params t order) (options : Poll.Options) (now : Instant)
    (cancelled : Bool) :
    step options now cancelled (.begin t.name params) = beginOrder (.ok order) := by
  cases h with
  | image hread =>
    simp only [Toolbox.step, hread]
    rfl
  | document hread =>
    simp only [Toolbox.step, hread]
    rfl

/-- An order is one request after its notice, whatever becomes of the
signal. -/
theorem run_of_order (horder : Orders params t order) (moves : Nat) :
    ∃ rest, requestsOf (((handlers options).task t.name params).run e race (moves + 2) m).effects =
      (.generate order.endpoint order.body, m.now) :: rest := by
  obtain ⟨m', hnow, heffects⟩ :=
    runFrom_report (horder.step options m.now (m.cancelled e.signalled)) race (moves + 1)
  have hask : step options m'.now (m'.cancelled e.signalled) (.noticed order) =
      .ask (.generate order.endpoint order.body) false fun answer => .generated order answer := rfl
  obtain ⟨rest, hrest⟩ := runFrom_ask hask race moves
  refine ⟨rest, ?_⟩
  rw [← hnow]
  exact heffects.trans hrest

/-- **The first request of a built-in tool** that reads a text is made of that
text, if the text is trimmed and not empty and the call is not cancelled. -/
theorem first_request (options : Poll.Options) (race : Race) (hreads : Reads text t params)
    (htrimmed : Text.Trimmed text.toList) (hne : text.toList ≠ [])
    (huncancelled : m.cancelled e.signalled = false) (moves : Nat) :
    ∃ q rest, (t, q) ∈ firstRequests text ∧
      requestsOf (((handlers options).task t.name params).run e race (moves + 2) m).effects =
        (q, m.now) :: rest := by
  cases hreads with
  | research _ hread =>
    have hquestion : (planOf options ⟨text, none⟩).question = text := by
      rw [Study.Plan.question, planOf, Text.trim_eq_self htrimmed, String.ofList_toList]
    have hempty : text.isEmpty = false := by
      refine Bool.eq_false_iff.2 fun h => hne ?_
      rw [String.isEmpty_iff.1 h]
      rfl
    have hask : step options m.now (m.cancelled e.signalled) (.begin research.name params) =
        .ask (.create ⟨text, none, []⟩) false fun answer =>
          .studying (planOf options ⟨text, none⟩) (.ordered m.now answer) := by
      rw [step_research hread, Study.step, hquestion, hempty, huncancelled, Study.Plan.order,
        hquestion]
      rfl
    obtain ⟨rest, hrest⟩ := runFrom_ask hask race (moves + 1)
    exact ⟨_, rest, List.mem_cons_self, hrest⟩
  | image _ hread =>
    obtain ⟨rest, hrest⟩ := run_of_order (.image hread) moves
    exact ⟨_, rest, List.mem_cons_of_mem _ List.mem_cons_self, hrest⟩
  | document _ hread =>
    have hbody : (Generation.Order.document ⟨text, .docx, none⟩).body =
        .obj [("content", .str text), ("format", .str "docx")] := by
      have hbefore : ¬ "format" < "content" := by decide
      simp only [Generation.Order.body, Generation.DocumentOrder.encode, Json.ofMembers,
        Json.insertMember, Generation.Format.encode, Generation.Format.text, List.foldl,
        Option.map_none, hbefore, if_false, String.reduceEq]
    obtain ⟨rest, hrest⟩ := run_of_order (.document hread) moves
    rw [hbody] at hrest
    exact ⟨_, rest, List.mem_cons_of_mem _ (List.mem_cons_of_mem _ List.mem_cons_self), hrest⟩

/-! ## Whole calls -/

/-- What the service is asked in the course of a call. -/
def requestsIn (trace : List Happening) : List (Client.Request × Instant) :=
  requestsOf (effectsOf trace)

section Calls

variable {i : Invoker Machine} {client : Client} {c : Context}

/-- A call that loses to a rival before its handler is entered asks nothing. -/
theorem call_lost (haccepted : Accepted i t.name params c m t) {rival : Rival}
    (hrival : ∃ b, i.rivalOf c m = some (b, rival)) (client : Client) (moves : Nat) :
    (i.invoke client moves t.name params c m).answer =
        some (.error (rivalFailure t.name (i.timeoutOf c) rival)) ∧
      requestsIn (i.invoke client moves t.name params c m).trace = [] := by
  obtain ⟨b, hlost⟩ := hrival
  rw [(invoke_accepted haccepted client moves).1, requestsIn, haccepted.effectsOf_eq,
    courseOf_of_lost hlost]
  exact ⟨rfl, rfl⟩

/-- One that does not begins with the request of its tool. -/
theorem call_asks (hhandlers : i.handlers = handlers options)
    (haccepted : Accepted i t.name params c m t)
    (huncancelled : (startOf c m).cancelled c.signalled = false) (hopen : i.rivalOf c m = none)
    (hreads : Reads text t params) (htrimmed : Text.Trimmed text.toList)
    (hne : text.toList ≠ []) (client : Client) (moves : Nat) :
    ∃ q rest, (t, q) ∈ firstRequests text ∧
      requestsIn (i.invoke client (moves + 2) t.name params c m).trace = (q, m.now) :: rest := by
  have hnow : (startOf c m).now = m.now := tell_now _ _ _
  have huncancelled' : (startOf c m).cancelled (settingOf client c).signalled = false :=
    huncancelled
  obtain ⟨q, rest, hfirst, hrest⟩ := first_request options
    (.against (i.deadlineOf c (startOf c m))) hreads htrimmed hne huncancelled' moves
  refine ⟨q, rest, hfirst, ?_⟩
  rw [requestsIn, haccepted.effectsOf_eq, courseOf_of_open hopen, ← hnow, ← hrest,
    Invoker.runOf, hhandlers]
  exact congrArg requestsOf (effectsOf_effects _)

/-- What comes of a call of a built-in tool by a text, which it is called with in
its primary parameter. -/
structure Carried (text : String) (t : Tool) (params : Json) (i : Invoker Machine) (c : Context)
    (m : Moment) (call : (moves : Nat) → Invocation.Report) : Prop where
  /-- The parameters are read as that text and nothing else. -/
  reads : Reads text t params
  /-- The text is not blank, and has no white space around it. -/
  kept : text ≠ "" ∧ Text.trim text.toList = text.toList
  /-- A call that is cancelled by the time the start hook has been told asks
  nothing and says so. -/
  cancelled : (startOf c m).cancelled c.signalled = true → ∀ moves,
    (call moves).answer = some (.error (.cancelled t.name)) ∧ requestsIn (call moves).trace = []
  /-- So does any other whose time is over at once. -/
  timedOut : (startOf c m).cancelled c.signalled = false → ∀ span, i.timeoutOf c = some span →
    due m.now span.nanos = m.now → ∀ moves,
      (call moves).answer = some (.error (.timeout t.name span)) ∧
        requestsIn (call moves).trace = []
  /-- All others contact the service at once, with a request made of the
  text. -/
  asks : (startOf c m).cancelled c.signalled = false →
    (∀ span, i.timeoutOf c = some span → due m.now span.nanos ≠ m.now) →
    ∀ moves, 2 ≤ moves → ∃ q rest, (t, q) ∈ firstRequests text ∧
      requestsIn (call moves).trace = (q, m.now) :: rest

theorem call_carried (hhandlers : i.handlers = handlers options)
    (hfound : i.registry.get? t.name = some t) (hchecked : t.check params = .ok ())
    (hreads : Reads text t params) (htrimmed : Text.Trimmed text.toList)
    (hne : text.toList ≠ []) (client : Client) (c : Context) (m : Moment) :
    Carried text t params i c m fun moves => i.invoke client moves t.name params c m := by
  have hnow : (startOf c m).now = m.now := tell_now _ _ _
  have haccepted : (startOf c m).cancelled c.signalled = false →
      Accepted i t.name params c m t := by
    intro huncancelled
    refine ⟨hfound, hchecked, ?_⟩
    by_contra hcancelled
    rw [startOf_cancelled (Bool.not_eq_false _ ▸ hcancelled)] at huncancelled
    cases huncancelled
  have htext : text ≠ "" := by
    rintro rfl
    exact hne rfl
  refine ⟨hreads, ⟨htext, Text.trim_eq_self htrimmed⟩, fun hcancelled moves => ?_,
    fun huncancelled span hspan hdue moves => ?_, fun huncancelled hdue moves hmoves => ?_⟩
  · cases hbefore : m.cancelled c.signalled with
    | true =>
      obtain ⟨hanswer, htrace, -⟩ := invoke_refused (.cancelled hfound hchecked hbefore)
        client moves
      refine ⟨hanswer, ?_⟩
      rw [requestsIn, htrace]
      exact congrArg requestsOf (filterMap_closing _ (fun _ => rfl) (fun _ => rfl) (fun _ => rfl) _)
    | false =>
      exact call_lost ⟨hfound, hchecked, hbefore⟩ (rivalOf_of_cancelled i hcancelled) client moves
  · have hdeadline : i.deadlineOf c (startOf c m) = some (startOf c m).now := by
      rw [deadlineOf_start hspan, hdue, hnow]
    have hlost := call_lost (haccepted huncancelled) (rivalOf_of_deadline huncancelled hdeadline)
      client moves
    rw [hspan] at hlost
    exact hlost
  · have hdeadline : i.deadlineOf c (startOf c m) ≠ some (startOf c m).now := by
      intro hsome
      obtain ⟨span, hspan, hspanned⟩ := Option.map_eq_some_iff.1 hsome
      rw [Moment.after, hnow] at hspanned
      exact hdue span hspan hspanned
    obtain ⟨more, rfl⟩ := Nat.exists_eq_add_of_le' hmoves
    exact call_asks hhandlers (haccepted huncancelled) huncancelled
      (rivalOf_eq_none huncancelled hdeadline) hreads htrimmed hne client more

end Calls

/-- **A call by free text is never stopped by its own parameters.** Where a text
resolves to a tool that requires no more than its primary parameter, as the
built-in tools do, it is called as that tool with the text in that parameter,
without the trigger, and the parameters pass their check. A built-in tool reads
them, and contacts the service with the text, unless it is cancelled or out of
time first. -/
theorem free_text (input : String) (route : Route) :
    (∀ t ∈ all, ∀ key ∈ t.required, t.primary = some key) ∧
    (∀ {σ : Type} (i : Invoker σ), i.router.resolve input = some route →
      (∀ key ∈ route.tool.required, route.tool.primary = some key) →
      (route.params input =
        match route.tool.primary with
        | some key => .obj [(key, .str (route.text input))]
        | none => .obj []) ∧
      i.registry.get? route.tool.name = some route.tool ∧
      route.tool.check (route.params input) = .ok () ∧
      ∀ client moves c m, i.dispatch client moves input c m =
        (some route, i.invoke client moves route.tool.name (route.params input) c m)) ∧
    ∀ (options : Poll.Options) (i : Invoker Machine), i.handlers = handlers options →
      i.router.resolve input = some route → route.tool ∈ all → ∀ client c m,
      Carried (route.text input) route.tool (route.params input) i c m fun moves =>
        (i.dispatch client moves input c m).2 := by
  have hdispatch : ∀ {σ : Type} (i : Invoker σ), i.router.resolve input = some route →
      ∀ client moves c m, i.dispatch client moves input c m =
        (some route, i.invoke client moves route.tool.name (route.params input) c m) := by
    intro σ i hroute client moves c m
    simp only [Invoker.dispatch, hroute]
  refine ⟨fun t => required_eq_primary, fun i hroute hrequired => ?_,
    fun options i hhandlers hroute ht client c m => ?_⟩
  · obtain ⟨hmem, hchosen, -⟩ := mem_rank.1 (mem_rank_of_resolve hroute)
    exact ⟨params_eq route input, Tool.Registry.get?_name hmem, check_params hchosen hrequired,
      hdispatch i hroute⟩
  · obtain ⟨hmem, hchosen, -⟩ := mem_rank.1 (mem_rank_of_resolve hroute)
    obtain ⟨key, hkey, hreads⟩ := reads_of_member ht (route.text input)
    have hparams : route.params input = .obj [(key, .str (route.text input))] := by
      rw [params_eq, hkey]
    have hcall : (fun moves => (i.dispatch client moves input c m).2) =
        fun moves => i.invoke client moves route.tool.name (route.params input) c m :=
      funext fun moves => congrArg Prod.snd (hdispatch i hroute client moves c m)
    rw [hcall]
    exact call_carried hhandlers (Tool.Registry.get?_name hmem)
      (check_params hchosen (required_eq_primary ht)) (hparams ▸ hreads)
      (text_trimmed route input) (text_ne_nil hchosen) client c m

/-- The route of a text about a cat. -/
def catRoute : Route := ⟨image, "draw", .window ⟨.word, true⟩ 1 3⟩

/-- A text that asks for a picture of a cat has one made of a cat. -/
theorem free_text_cat :
    builtIn.router.resolve "Draw: a cat" = some catRoute ∧
      ∀ moves, 2 ≤ moves → ∃ rest,
        requestsIn (builtIn.dispatch studio moves "Draw: a cat" (attentive true none)
          (.start none)).2.trace =
            (.generate "image-generation" (.obj [("prompt", .str "a cat")]), 0) :: rest := by
  have hunsorted : ((builtIn.router.registry.tools.filterMap (route? · "Draw: a cat")).filter
      builtIn.router.admits) = [catRoute] := by
    decide +kernel
  have hroute : builtIn.router.resolve "Draw: a cat" = some catRoute := by
    rw [Router.resolve, Router.rank, hunsorted, List.mergeSort_singleton]
    rfl
  have htext : catRoute.text "Draw: a cat" = "a cat" := by decide +kernel
  have himage : image ∈ all := List.mem_cons_of_mem _ List.mem_cons_self
  have hcarried := (free_text "Draw: a cat" catRoute).2.2 .standard builtIn rfl hroute himage studio
    (attentive true none) (.start none)
  refine ⟨hroute, fun moves hmoves => ?_⟩
  have hpatient : ∀ span, builtIn.timeoutOf (attentive true none) = some span →
      due (Moment.start none).now span.nanos ≠ (Moment.start none).now := by
    intro span hspan
    cases hspan
  obtain ⟨q, rest, hfirst, hrequests⟩ := hcarried.asks rfl hpatient moves hmoves
  obtain rfl : q = .generate "image-generation" (.obj [("prompt", .str "a cat")]) := by
    rw [htext] at hfirst
    simpa [firstRequests, catRoute, research, image, document] using hfirst
  exact ⟨rest, hrequests⟩

end Toolbox

end Amanuensis
