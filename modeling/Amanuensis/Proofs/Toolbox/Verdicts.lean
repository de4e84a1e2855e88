import Amanuensis.Proofs.Invocation.Course
import Amanuensis.Proofs.Research.Keeping
import Amanuensis.Toolbox.Handlers
/-!
# The verdicts of the built-in tools

A built-in tool answers with the kind of output that it declares, or fails
with a regular failure: never by itself, and to be tried again only if the
kind of the failure says so. That is a property of every move of their
handlers (`handlers_keeping`), and it carries over to every call of them,
whatever its parameters, its context and the service are (`call_regular`).
-/


namespace Amanuensis

namespace Tool

variable {t : Tool} {params : Json} {f : Failure}

/-- Parameters that are not accepted are refused. -/
theorem check_regular (h : t.check params = .error f) : f.Regular := by
  unfold check at h
  split at h
  · split at h <;> cases h
    exact Failure.validation_regular _
  · cases h
    exact Failure.validation_regular _

/-- And so are parameters that cannot be read. -/
theorem readParams_regular {α : Type} {tool : String} {decode : Json → Wire.Decoded α}
    (h : readParams tool decode params = .error f) : f.Regular := by
  unfold readParams at h
  split at h <;> cases h
  exact Failure.validation_regular _

end Tool

namespace Invocation

variable {σ : Type} {i : Invoker σ} {name : String} {params : Json} {c : Context} {m : Task.Moment}

/-- Every refusal of a call is regular. -/
theorem Refused.regular {f : Failure} (h : Refused i name params c m f) : f.Regular := by
  cases h with
  | unknown => exact Failure.toolNotFound_regular _
  | rejected _ hchecked => exact Tool.check_regular hchecked
  | cancelled => exact Failure.cancelled_regular _

/-- And so is every loss of a handler. -/
theorem rivalFailure_regular (tool : String) (timeout : Option Duration) (rival : Task.Rival) :
    (rivalFailure tool timeout rival).Regular := by
  cases rival with
  | signal => exact Failure.cancelled_regular _
  | deadline => exact Failure.timeout_regular _ _

end Invocation

namespace Toolbox

open Amanuensis.Task Research Invocation

/-- What a built-in tool may come to. -/
def Fits (t : Tool) : Tool.Verdict → Prop
  | .output o => o.kind = t.kind
  | .failure f _ => f.Regular
  | .error _ | .breakdown _ => False

/-- The tool that an order is made for. -/
def toolOf : Generation.Order → Tool
  | .image _ => image
  | .document _ => document

/-- The states of the handler of a built-in tool. -/
inductive Serves : Tool → Machine → Prop
  | begin {t params} : t ∈ all → Serves t (.begin t.name params)
  | studying {plan study} : (study = .begin ∨ Study.Ordered study) →
      Serves research (.studying plan study)
  | noticed {order} : Serves (toolOf order) (.noticed order)
  | generated {order answer} : Serves (toolOf order) (.generated order answer)

variable {t : Tool} {options : Poll.Options} {now : Instant} {cancelled : Bool} {params : Json}

/-! ## What the handlers settle with -/

theorem findingVerdict_fits {result : Except Failure Poll.Finding} (h : RegularResult result) :
    Fits research (findingVerdict result) := by
  cases result with
  | ok finding => rfl
  | error f => exact h f rfl

theorem output_fits (order : Generation.Order) (answer : Json) :
    Fits (toolOf order) (verdictOf (order.output answer)) := by
  cases order with
  | image o =>
    simp only [Generation.Order.output, Generation.imageOutput]
    split
    · rfl
    · exact Failure.remote_regular _ _
  | document o =>
    simp only [Generation.Order.output, Generation.documentOutput]
    split
    · rfl
    · exact Failure.remote_regular _ _

/-- The moves of the study of a call. -/
theorem studied_keeps {plan : Study.Plan} {study : Study.Machine}
    (h : study = .begin ∨ Study.Ordered study) :
    (studied plan (Study.step plan now cancelled study)).Keeps (Serves research) (fun _ => True)
      (Fits research) :=
  (Study.study_keeping plan now cancelled study h).map (fun _ => .studying) (fun _ _ => trivial)
    fun _ => findingVerdict_fits

/-- An order begins with its notice, or not at all. -/
theorem beginOrder_keeps {α : Type} {tool : String} {decode : Json → Wire.Decoded α}
    {order : α → Generation.Order} (ht : ∀ a, toolOf (order a) = t) :
    (beginOrder ((Tool.readParams tool decode params).map order)).Keeps (Serves t) (fun _ => True)
      (Fits t) := by
  cases hread : Tool.readParams tool decode params with
  | ok a => exact ht a ▸ Serves.noticed
  | error f => exact Tool.readParams_regular hread

/-- The first move of a call. -/
theorem begin_keeps (ht : t ∈ all) :
    (step options now cancelled (.begin t.name params)).Keeps (Serves t) (fun _ => True)
      (Fits t) := by
  simp only [all, List.mem_cons, List.not_mem_nil, or_false] at ht
  obtain rfl | rfl | rfl := ht
  · rw [step, if_pos rfl]
    split
    · exact studied_keeps (.inl rfl)
    · exact Tool.readParams_regular ‹_›
  · rw [step, if_neg (by decide), if_pos rfl]
    exact beginOrder_keeps fun _ => rfl
  · rw [step, if_neg (by decide), if_neg (by decide), if_pos rfl]
    exact beginOrder_keeps fun _ => rfl

/-- **A built-in tool keeps to what it declares.** -/
theorem handlers_keeping (t : Tool) (options : Poll.Options) :
    Keeping (handlers options).step (Serves t) (fun _ => True) (Fits t) := by
  intro now cancelled s hs
  cases hs with
  | begin ht => exact begin_keeps ht
  | studying h => exact studied_keeps h
  | noticed => exact ⟨trivial, fun _ => .generated⟩
  | @generated order answer =>
    match answer with
    | none => exact Failure.toFailure_regular .cancelled
    | some (.error error) => exact Failure.toFailure_regular error
    | some (.ok answer) => exact output_fits order answer

/-- Such a verdict is answered as it is. -/
theorem normalize_of_fits {v : Tool.Verdict} (h : Fits t v) :
    (∀ f, v.normalize t = .error f → f.Regular) ∧ ∀ o, v.normalize t = .ok o → o.kind = t.kind := by
  cases v with
  | output o =>
    have hanswer : (Tool.Verdict.output o).normalize t = .ok o := if_pos h
    rw [hanswer]
    exact ⟨nofun, by rintro o' ⟨⟩; exact h⟩
  | failure f contexts => exact ⟨by rintro f' ⟨⟩; exact h, nofun⟩
  | error messages => exact h.elim
  | breakdown text => exact h.elim

/-! ## Whole calls -/

/-- **What built-in tools and research fail with.** Every failure of a call
of a built-in tool, of a poll and of a study is regular, whatever the
parameters, the context, the timeout and the service are: no handler made
it up, and it may be tried again if and only if the connection failed, the
call ran into its deadline or the service is asked too often. And every
output of a built-in tool is of the kind that the tool declares. -/
theorem call_regular (options : Poll.Options) :
    (∀ (i : Invoker Machine) (t : Tool), i.handlers = handlers options → t ∈ all →
      i.registry.get? t.name = some t → ∀ client moves params c m,
        (∀ f, (i.invoke client moves t.name params c m).answer = some (.error f) → f.Regular) ∧
        ∀ o, (i.invoke client moves t.name params c m).answer = some (.ok o) → o.kind = t.kind) ∧
    (∀ e race moves m jobId now f,
      ((poll options jobId now).run e race moves m).outcome = .settled (.error f) → f.Regular) ∧
    ∀ e race moves m plan f,
      ((study plan).run e race moves m).outcome = .settled (.error f) → f.Regular := by
  refine ⟨fun i t hhandlers ht hfound client moves params c m => ?_, ?_, ?_⟩
  · have hanswers : ∀ answer, (i.invoke client moves t.name params c m).answer = some answer →
        (∀ f, answer = .error f → f.Regular) ∧ ∀ o, answer = .ok o → o.kind = t.kind := by
      intro answer hanswer
      obtain ⟨f, hrefused, rfl⟩ | ⟨t', haccepted, hcourse⟩ := answer_cases hanswer
      · exact ⟨by rintro f' ⟨⟩; exact hrefused.regular, nofun⟩
      · obtain rfl : t' = t := Option.some.inj (haccepted.found.symm.trans hfound)
        obtain ⟨rival, rfl⟩ | ⟨v, hsettled, rfl⟩ := hcourse
        · exact ⟨by rintro f' ⟨⟩; exact rivalFailure_regular _ _ _, nofun⟩
        · refine normalize_of_fits ?_
          rw [Invoker.runOf, hhandlers] at hsettled
          exact ((handlers_keeping t' options).run (.begin ht) moves).2 v hsettled
    exact ⟨fun f hf => (hanswers _ hf).1 f rfl, fun o ho => (hanswers _ ho).2 o rfl⟩
  · intro e race moves m jobId now f hsettled
    exact ((Poll.poll_keeping options jobId).run (Poll.start_sound options jobId now) moves).2 _
      hsettled f rfl
  · intro e race moves m plan f hsettled
    exact ((Study.study_keeping plan).run (.inl rfl) moves).2 _ hsettled f rfl

/-! ## A service to try it on -/

/-- A service that is asked too often. -/
def overloaded : Client :=
  .ofSequences (fun _ => .now (.error (.api "RATE_LIMIT" "slow down")))
    (fun _ => .now (.error (.api "RATE_LIMIT" "slow down")))
    fun _ => .now (.error (.api "RATE_LIMIT" "slow down"))

/-- The built-in tools and nothing else. -/
def builtIn : Invoker Machine := ⟨.standard registry, handlers .standard, none⟩

/-- An image, a poll and a study all fail for this, and may be tried again. -/
theorem overloaded_regular :
    let e : Setting Poll.Event := ⟨overloaded, false, none⟩
    (∃ f, (builtIn.invoke overloaded 5 image.name (.obj [("prompt", .str "a cat")]) .bare
      (.start none)).answer = some (.error f) ∧ f.retryable = true ∧ f.Regular) ∧
    (∃ f, ((poll .standard "job-1" 0).run e .free 5 (.start none)).outcome = .settled (.error f) ∧
      f.retryable = true ∧ f.Regular) ∧
    ∃ f, ((study ⟨"why?", none, [], .standard⟩).run e .free 5 (.start none)).outcome =
      .settled (.error f) ∧ f.retryable = true ∧ f.Regular := by
  intro e
  obtain ⟨hcall, hpoll, hstudy⟩ := call_regular .standard
  have himage : (builtIn.invoke overloaded 5 image.name (.obj [("prompt", .str "a cat")]) .bare
      (.start none)).answer = some (.error (.remote "RATE_LIMIT" "slow down")) := by rfl
  have hpolled : ((poll .standard "job-1" 0).run e .free 5 (.start none)).outcome =
      .settled (.error (.remote "RATE_LIMIT" "slow down")) := by rfl
  have hstudied : ((study ⟨"why?", none, [], .standard⟩).run e .free 5 (.start none)).outcome =
      .settled (.error (.remote "RATE_LIMIT" "slow down")) := by rfl
  exact ⟨⟨_, himage, rfl, (hcall builtIn image rfl (by simp [all]) rfl _ _ _ _ _).1 _ himage⟩,
    ⟨_, hpolled, rfl, hpoll _ _ _ _ _ _ _ hpolled⟩,
    ⟨_, hstudied, rfl, hstudy _ _ _ _ _ _ hstudied⟩⟩

end Toolbox

end Amanuensis
