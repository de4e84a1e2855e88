import Amanuensis.Http.Exchange
import Amanuensis.Proofs.Research.Report
import Amanuensis.Proofs.Research.StudyRun
/-!
# Answers to an order

Every value that the service may answer an order with belongs to one of three
classes (`Creation.classes`). It names a queued job if it is an object
with a text as its `jobId` and, if it has one, a text or null as its `status`,
whatever else it holds; a value that does not is a report if it can be read as
one; and any other value is neither. A member of another kind is no fault of
its own: it takes the value out of the first class, and the second is tried.

A study polls after the first class, returns at once after the second, and
fails after the third (`Pursues`).
-/


namespace Amanuensis

namespace Task

variable {σ ε ρ : Type} {step : Instant → Bool → σ → Move σ ε ρ} {e : Setting ε} {race : Race}

/-- A run that is over after a single move has settled by it. -/
theorem step_of_settled_one {m : Moment} {s : σ} {result : ρ}
    (h : (runFrom step e race 1 m s).outcome = .settled result) :
    step m.now (m.cancelled e.signalled) s = .settle result := by
  have hends : Ends step e race m s 1 (runFrom step e race 1 m s) := runFrom_ends 1 m s
  generalize runFrom step e race 1 m s = r at h hends
  cases hends with
  | unfinished | lost | stuck => cases h
  | settled hreached hlt hturn =>
    obtain rfl := Nat.lt_one_iff.1 hlt
    cases hreached
    cases h
    exact turn_eq_error hturn

end Task

namespace Research

open Wire (Given Provides Reads TextOrNull valuesAt)

/-! ## Statuses -/

namespace Status

theorem decode_iff {j : Json} {status : Status} :
    decode j = .ok status ↔ ∃ s, j = .str s ∧ ofText s = status := by
  rw [decode]
  constructor
  · intro h
    cases hj : Wire.string j with
    | error e => rw [hj] at h; cases h
    | ok s =>
      rw [hj] at h
      exact ⟨s, Wire.string_eq_ok.1 hj, Except.ok.inj h⟩
  · rintro ⟨s, rfl, rfl⟩
    rfl

/-- A status that may be null. -/
theorem reads_nullable : Reads (Wire.nullable decode) = TextOrNull ofText :=
  Wire.reads_eq fun _ _ => Wire.textOrNull_iff fun _ _ => decode_iff

end Status

/-! ## Classes -/

namespace Creation

variable {j : Json} {jobId : String} {status : Option Status}

/-- A value names a queued job. -/
def Names (j : Json) (jobId : String) (status : Option Status) : Prop :=
  ∃ members, j = .obj members ∧ valuesAt "jobId" members = [.str jobId] ∧
    Given (TextOrNull Status.ofText) none (valuesAt "status" members) status

/-- A value is read as a queued job where it names one. -/
theorem decodeQueued_iff {c : Creation} :
    decodeQueued j = .ok c ↔ ∃ jobId status, Names j jobId status ∧ .queued jobId status = c := by
  cases j with
  | obj members =>
    have hkeys : (queuedFields.map Wire.Field.key).Nodup := by decide
    refine (Wire.record_then hkeys).trans ?_
    simp only [queuedFields, Wire.needed_then, Wire.optional_then, Wire.nothing_then,
      Wire.sole_string]
    rw [Status.reads_nullable]
    constructor
    · rintro ⟨_, ⟨⟩, jobId, hjob, status, hstatus, hc⟩
      exact ⟨jobId, status, ⟨members, rfl, hjob, hstatus⟩, hc⟩
    · rintro ⟨jobId, status, ⟨_, ⟨⟩, hjob, hstatus⟩, hc⟩
      exact ⟨members, .object members, jobId, hjob, status, hstatus, hc⟩
  | null | bool | num | str | arr =>
    exact iff_of_false (by rintro ⟨⟩) (by rintro ⟨_, _, ⟨_, ⟨⟩, _⟩, _⟩)

/-- The reading as a queued job fails where a value names none. -/
theorem decodeQueued_error (h : ¬ ∃ jobId status, Names j jobId status) :
    ∃ fault, decodeQueued j = .error fault := by
  cases hqueued : decodeQueued j with
  | error fault => exact ⟨fault, rfl⟩
  | ok c =>
    obtain ⟨jobId, status, hnames, -⟩ := decodeQueued_iff.1 hqueued
    exact absurd ⟨jobId, status, hnames⟩ h

/-- A value that names no job is read as a report, if it is one. -/
theorem decode_of_not_names (h : ¬ ∃ jobId status, Names j jobId status) :
    decode j = ((Report.decode j).map .completed).mapError
      fun _ => .noAlternative "CreateJobResponse" := by
  obtain ⟨fault, hfault⟩ := decodeQueued_error h
  rw [decode, hfault]
  cases Report.decode j <;> rfl

/-- A value that names a job is read as that, whatever else it holds. -/
theorem decode_of_names (h : Names j jobId status) : decode j = .ok (.queued jobId status) := by
  rw [decode, decodeQueued_iff.2 ⟨jobId, status, h, rfl⟩]

/-- There is one message for every value that is neither. -/
theorem message_of_error {fault : Wire.Fault} (h : decode j = .error fault) :
    fault.message = "data did not match any variant of untagged enum CreateJobResponse" := by
  rw [decode] at h
  split at h
  · cases h
  · split at h
    · cases h
    · cases h
      rfl

/-- To which class a value belongs, and what it is read as. -/
structure Classes (j : Json) : Prop where
  /-- A queued job, with the name and the status that the value has for it. -/
  queued : ∀ jobId status, decode j = .ok (.queued jobId status) ↔ Names j jobId status
  /-- A report, if the value names no job. -/
  completed : ∀ r, decode j = .ok (.completed r) ↔
    (¬ ∃ jobId status, Names j jobId status) ∧ Report.decode j = .ok r
  /-- What a report is, as an object or as an array. -/
  report : ∀ r, Report.decode j = .ok r ↔
    ∃ members, Provides ["text", "citations", "reasoningSteps"] j members ∧
      Report.Holds members r
  /-- A fault, always the same one. -/
  neither : ∀ fault, decode j = .error fault ↔
    (¬ ∃ jobId status, Names j jobId status) ∧ (¬ ∃ r, Report.decode j = .ok r) ∧
      fault = .noAlternative "CreateJobResponse"
  message : ∀ fault, decode j = .error fault →
    fault.message = "data did not match any variant of untagged enum CreateJobResponse"

/-- **Every value belongs to one of the classes.** -/
theorem classes (j : Json) : Classes j := by
  by_cases hnames : ∃ jobId status, Names j jobId status
  · obtain ⟨jobId, status, hjob⟩ := hnames
    have hdecode := decode_of_names hjob
    refine ⟨fun jobId' status' => ?_, fun r => ?_, fun r => Report.decode_iff, fun fault => ?_,
      fun fault => message_of_error⟩
    · constructor
      · intro h
        obtain ⟨rfl, rfl⟩ := Creation.queued.inj (Except.ok.inj (hdecode.symm.trans h))
        exact hjob
      · exact decode_of_names
    · rw [hdecode]
      exact iff_of_false (by rintro ⟨⟩) fun h => h.1 ⟨jobId, status, hjob⟩
    · rw [hdecode]
      exact iff_of_false (by rintro ⟨⟩) fun h => h.1 ⟨jobId, status, hjob⟩
  · have hdecode := decode_of_not_names hnames
    refine ⟨fun jobId status => ?_, fun r => ?_, fun r => Report.decode_iff, fun fault => ?_,
      fun fault => message_of_error⟩
    · refine iff_of_false (fun h => ?_) fun hjob => hnames ⟨jobId, status, hjob⟩
      rw [hdecode] at h
      cases hreport : Report.decode j <;> rw [hreport] at h <;> cases h
    · rw [hdecode, and_iff_right hnames]
      cases Report.decode j <;> simp [Except.map, Except.mapError]
    · rw [hdecode, and_iff_right hnames]
      cases Report.decode j <;> simp [Except.map, Except.mapError, eq_comm]

end Creation

/-! ## Studies -/

namespace Study

open Amanuensis.Task
open Creation (Names)

variable {e : Setting Poll.Event} {p : Plan} {m : Moment} {t : Instant} {j : Json}
variable {body : List UInt8}

/-- A body holds a value. -/
def BodyIs (body : List UInt8) (j : Json) : Prop :=
  (Http.textOf? body).bind (Json.readAs? .whole) = some j

/-- A success is read as what its value is. -/
theorem conclude_create {status : Nat} (hstatus : Http.isSuccess status = true)
    (hbody : BodyIs body j) (order : Order) :
    Http.conclude (.create order) status body true =
      (Creation.decode j).mapError fun _ => Http.undecodable := by
  have hheld : Http.answerIn (.create order) body = (Creation.decode j).toOption :=
    congrArg (fun value => value.bind fun j => (Creation.decode j).toOption) hbody
  rw [Http.conclude, if_pos hstatus, if_pos rfl, hheld]
  cases Creation.decode j <;> rfl

/-- By its first move a poll settles only for the signal or for its budget. -/
theorem poll_one_settled {o : Poll.Options} {jobId : String} {now : Instant}
    {result : Except Failure Poll.Finding}
    (h : ((poll o jobId now).run e .free 1 m).outcome = .settled result) :
    ∃ f, result = .error f ∧ (f.kind = .pollingCancelled ∨ f.kind = .pollingTimeout) := by
  have hstep : Poll.beginSlot o m.now (m.cancelled e.signalled) (Poll.start o jobId now).1 =
      .settle result := step_of_settled_one h
  rw [Poll.beginSlot] at hstep
  split at hstep
  · obtain rfl := Move.settle.inj hstep
    exact ⟨_, rfl, .inl rfl⟩
  · split at hstep
    · obtain rfl := Move.settle.inj hstep
      exact ⟨_, rfl, .inr rfl⟩
    · cases hstep

/-- After its order a study is the poll of a job. -/
def Polls (e : Setting Poll.Event) (p : Plan) (m : Moment) (t : Instant) (jobId : String) : Prop :=
  ∀ moves, (study p).run e .free (moves + 1) m =
    ((poll p.options jobId t).run e .free moves ((e.sent m (.create p.order)).goto t)).after
      [.asked (.create p.order) m.now]

/-- After its order a study is over, and nothing else has been asked. -/
def Returns (e : Setting Poll.Event) (p : Plan) (m : Moment) (t : Instant)
    (result : Except Failure Poll.Finding) : Prop :=
  ∀ moves, (study p).run e .free (moves + 2) m = ⟨[.asked (.create p.order) m.now],
    .settled result, (e.sent m (.create p.order)).goto t⟩

theorem Returns.unique {result result' : Except Failure Poll.Finding}
    (h : Returns e p m t result) (h' : Returns e p m t result') : result = result' :=
  Outcome.settled.inj (congrArg Record.outcome ((h 0).symm.trans (h' 0)))

/-- A study that polls does not return at once with a report or with a failure
of the service. -/
theorem Polls.result {jobId : String} {result : Except Failure Poll.Finding}
    (h : Polls e p m t jobId) (h' : Returns e p m t result) :
    ∃ f, result = .error f ∧ (f.kind = .pollingCancelled ∨ f.kind = .pollingTimeout) :=
  poll_one_settled (congrArg Record.outcome ((h 1).symm.trans (h' 0)))

/-- What a study does after its order, from the value that this is answered
with. -/
structure Pursues (e : Setting Poll.Event) (p : Plan) (m : Moment) (t : Instant) (j : Json) :
    Prop where
  /-- It polls the job that the value names, -/
  polls : ∀ jobId status, Names j jobId status → Polls e p m t jobId
  /-- and polls for no other value. -/
  polls_iff : (∃ jobId, Polls e p m t jobId) ↔ ∃ jobId status, Names j jobId status
  /-- It returns a report at once if and only if the value is one. -/
  returns_iff : ∀ r, Returns e p m t (.ok ⟨r, 0, .ofNanos (t - m.now)⟩) ↔
    (¬ ∃ jobId status, Names j jobId status) ∧ Report.decode j = .ok r
  /-- It fails at once if and only if the value is neither. -/
  fails_iff : Returns e p m t (.error Http.undecodable.toFailure) ↔
    (¬ ∃ jobId status, Names j jobId status) ∧ ¬ ∃ r, Report.decode j = .ok r

theorem polls_of_queued {jobId : String} {status : Option Status} (hquery : ¬ p.Blank)
    (hcancelled : m.cancelled e.signalled = false)
    (hanswer : answerOf e p m = some (t, .ok (.queued jobId status))) : Polls e p m t jobId := by
  intro moves
  rw [run_of_answer hquery hcancelled hanswer, run_of_queued]
  rfl

/-- **A study polls after the first class and returns after the others.** -/
theorem pursues {status : Nat} (hquery : ¬ p.Blank) (hcancelled : m.cancelled e.signalled = false)
    (hstatus : Http.isSuccess status = true) (hbody : BodyIs body j)
    (hanswer : answerOf e p m = some (t, Http.conclude (.create p.order) status body true)) :
    Pursues e p m t j := by
  rw [conclude_create hstatus hbody] at hanswer
  have hclasses := Creation.classes j
  cases hdecode : Creation.decode j with
  | error fault =>
    rw [hdecode] at hanswer
    -- neither a job nor a report: the study fails, and not as a poll may
    obtain ⟨hnames, hreport, -⟩ := (hclasses.neither fault).1 hdecode
    have hreturns : Returns e p m t (.error Http.undecodable.toFailure) :=
      run_of_settle hquery hcancelled hanswer fun _ => step_ordered_error nofun
    refine ⟨fun jobId status hjob => absurd ⟨jobId, status, hjob⟩ hnames, ?_, fun r => ?_, ?_⟩
    · refine iff_of_false ?_ hnames
      rintro ⟨jobId, hpolls⟩
      obtain ⟨f, hf, hkind⟩ := hpolls.result hreturns
      obtain rfl := Except.error.inj hf
      rcases hkind with hkind | hkind <;> cases hkind
    · exact iff_of_false (fun h => nomatch h.unique hreturns) fun h => hreport ⟨r, h.2⟩
    · exact iff_of_true hreturns ⟨hnames, hreport⟩
  | ok c =>
    rw [hdecode] at hanswer
    cases c with
    | queued jobId status =>
      -- a job: the study is its poll, whose first move is no return
      have hjob := (hclasses.queued jobId status).1 hdecode
      have hpolls : Polls e p m t jobId := polls_of_queued hquery hcancelled hanswer
      have hnames : ∃ jobId status, Names j jobId status := ⟨jobId, status, hjob⟩
      refine ⟨fun jobId' status' hjob' => ?_, iff_of_true ⟨jobId, hpolls⟩ hnames, fun r => ?_, ?_⟩
      · have hdecode' := (hclasses.queued jobId' status').2 hjob'
        obtain ⟨rfl, -⟩ := Creation.queued.inj (Except.ok.inj (hdecode.symm.trans hdecode'))
        exact hpolls
      · refine iff_of_false (fun h => ?_) fun h => h.1 hnames
        obtain ⟨f, hf, -⟩ := hpolls.result h
        cases hf
      · refine iff_of_false (fun h => ?_) fun h => h.1 hnames
        obtain ⟨f, hf, hkind⟩ := hpolls.result h
        obtain rfl := Except.error.inj hf
        rcases hkind with hkind | hkind <;> cases hkind
    | completed report =>
      -- a report: the study has settled with it before it could poll
      obtain ⟨hnames, hreport⟩ := (hclasses.completed report).1 hdecode
      have hreturns : Returns e p m t (.ok ⟨report, 0, .ofNanos (t - m.now)⟩) :=
        run_of_settle hquery hcancelled hanswer fun _ => rfl
      refine ⟨fun jobId status hjob => absurd ⟨jobId, status, hjob⟩ hnames, ?_, fun r => ?_, ?_⟩
      · refine iff_of_false ?_ hnames
        rintro ⟨jobId, hpolls⟩
        obtain ⟨f, hf, -⟩ := hpolls.result hreturns
        cases hf
      · rw [and_iff_right hnames, hreport, Except.ok.injEq]
        constructor
        · intro h
          exact (Poll.Finding.mk.inj (Except.ok.inj (hreturns.unique h))).1
        · rintro rfl
          exact hreturns
      · exact iff_of_false (fun h => nomatch h.unique hreturns) fun h => h.2 ⟨report, hreport⟩

/-- **Answers to an order**: every value belongs to one of three classes, and a
study whose order a success answers with the value does what the class says. -/
theorem answer_classified (j : Json) :
    Creation.Classes j ∧
    ∀ (e : Setting Poll.Event) (p : Plan) (m : Moment) (t : Instant) (status : Nat)
      (body : List UInt8), ¬ p.Blank → m.cancelled e.signalled = false →
      Http.isSuccess status = true → BodyIs body j →
      answerOf e p m = some (t, Http.conclude (.create p.order) status body true) →
      Pursues e p m t j :=
  ⟨Creation.classes j, fun _ _ _ _ _ _ hquery hcancelled hstatus hbody hanswer =>
    pursues hquery hcancelled hstatus hbody hanswer⟩

/-! ## A service to try it on -/

/-- A service that answers every order with one body. -/
def desk (body : String) : Client :=
  ⟨fun _ q =>
    match q with
    | .create order => .now (Http.conclude (.create order) 200 body.toUTF8.toList true)
    | .status _ | .generate _ _ => .now (.error .cancelled)⟩

theorem desk_answerOf (body : String) :
    answerOf ⟨desk body, false, none⟩ (asker "why?") (.start none) =
      some (0, Http.conclude (.create (asker "why?").order) 200 body.toUTF8.toList true) := rfl

/-- A job with a status that is a number, and a text. -/
def misstated : String := "\x7b\"jobId\": \"job-1\", \"status\": 5, \"text\": \"done\"\x7d"

/-- A job without a status, and a text. -/
def unstated : String := "\x7b\"jobId\": \"job-1\", \"status\": null, \"text\": \"done\"\x7d"

/-- A job whose status is a number is none, so the text is the report that is
there at once. If its status is null it is polled, and its text goes unread. -/
theorem misstated_returns :
    Returns ⟨desk misstated, false, none⟩ (asker "why?") (.start none) 0
      (.ok ⟨⟨"done", [], []⟩, 0, .ofNanos 0⟩) ∧
    Polls ⟨desk unstated, false, none⟩ (asker "why?") (.start none) 0 "job-1" := by
  have hquery : ¬ (asker "why?").Blank := fun h => absurd (List.all_eq_true.2 h) (by decide)
  constructor
  · have hbody : BodyIs misstated.toUTF8.toList (.obj [("jobId", .str "job-1"),
        ("status", .num (.int 5)), ("text", .str "done")]) := by
      rw [BodyIs]
      decide +kernel
    obtain ⟨hclasses, hstudies⟩ := answer_classified (.obj [("jobId", .str "job-1"),
      ("status", .num (.int 5)), ("text", .str "done")])
    have hpursues := hstudies _ _ _ 0 200 _ hquery rfl rfl hbody (desk_answerOf misstated)
    exact (hpursues.returns_iff _).2 ((hclasses.completed _).1 rfl)
  · have hbody : BodyIs unstated.toUTF8.toList (.obj [("jobId", .str "job-1"),
        ("status", .null), ("text", .str "done")]) := by
      rw [BodyIs]
      decide +kernel
    obtain ⟨hclasses, hstudies⟩ := answer_classified (.obj [("jobId", .str "job-1"),
      ("status", .null), ("text", .str "done")])
    have hpursues := hstudies _ _ _ 0 200 _ hquery rfl rfl hbody (desk_answerOf unstated)
    exact hpursues.polls "job-1" none ((hclasses.queued _ _).1 rfl)

end Study

end Research

end Amanuensis
