import Amanuensis.Proofs.Invocation.FirstToSettle
import Amanuensis.Proofs.Research.StudyRun
import Amanuensis.Toolbox.Handlers
/-!
# Calls of the built-in tools

The handlers of the built-in tools leave the caller's signal alone
(`step_neverCancels`), and they are over in the end or get to any instant if
the waits of their polls last (`step_passes`): an order after its one request,
and research because from its first move on it is a study, told as progress
(`research_run`). So their calls are tame, and what holds of a handler in a
race holds of them (`tame_of_builtIn`).
-/


namespace Amanuensis

namespace Toolbox

open Amanuensis.Task Research Invocation

variable {options : Poll.Options} {e : Setting Tool.Progress} {race : Race} {m : Moment}
variable {params : Json}

/-! ## The first move -/

/-- Research begins as the study that is asked for. -/
theorem step_research {i : Inquiry} {now : Instant} {cancelled : Bool}
    (hread : Tool.readParams research.name Inquiry.decode params = .ok i) :
    step options now cancelled (.begin research.name params) =
      studied (planOf options i) (Study.step (planOf options i) now cancelled .begin) := by
  simp only [step, if_pos, hread]

/-- A call that does not begin so begins with an order or fails at once. -/
theorem begin_cases (options : Poll.Options) (tool : String) (params : Json) :
    (∃ i, tool = research.name ∧ Tool.readParams research.name Inquiry.decode params = .ok i) ∨
      ∃ order, ∀ now cancelled, step options now cancelled (.begin tool params) =
        beginOrder order := by
  by_cases hresearch : tool = research.name
  · subst hresearch
    cases hread : Tool.readParams research.name Inquiry.decode params with
    | ok i => exact .inl ⟨i, rfl, rfl⟩
    | error f =>
      refine .inr ⟨.error f, fun now cancelled => ?_⟩
      simp only [step, if_pos, hread]
      rfl
  · right
    simp only [step, if_neg hresearch]
    by_cases himage : tool = image.name
    · exact ⟨_, fun _ _ => if_pos himage⟩
    · simp only [if_neg himage]
      by_cases hdocument : tool = document.name
      · exact ⟨_, fun _ _ => if_pos hdocument⟩
      · exact ⟨.error (.toolNotFound tool), fun _ _ => if_neg hdocument⟩

/-- **The handler of research is the study that is asked for**, its events
told as progress and its finding as a verdict. -/
theorem research_run {i : Inquiry}
    (hread : Tool.readParams research.name Inquiry.decode params = .ok i) (moves : Nat) :
    ((handlers options).task research.name params).run e race moves m =
      ((study (planOf options i)).run (e.inside progressOf) race moves m).map progressOf
        findingVerdict := by
  have hfirst : step options m.now (m.cancelled e.signalled) (.begin research.name params) =
      step options m.now (m.cancelled e.signalled) (.studying (planOf options i) .begin) :=
    step_research hread
  have hplaced : ∀ now cancelled study, step options now cancelled
      (.studying (planOf options i) study) =
        (Study.step (planOf options i) now cancelled study).map (.studying (planOf options i))
          progressOf findingVerdict := fun _ _ _ => rfl
  have hrun : runFrom (step options) e race moves m (.begin research.name params) =
      runFrom (step options) e race moves m (.studying (planOf options i) .begin) :=
    runFrom_congr hfirst moves
  exact hrun.trans (runFrom_placed hplaced moves m _)

/-! ## The caller's signal -/

/-- **No built-in tool cancels the caller's signal.** -/
theorem step_neverCancels (options : Poll.Options) : NeverCancels (step options) := by
  intro now cancelled s next
  have hstudied : ∀ plan study, studied plan (Study.step plan now cancelled study) ≠ .cancel next :=
    fun plan study => Move.map_ne_cancel (Study.step_neverCancels plan now cancelled study) next
  cases s with
  | begin tool params =>
    obtain ⟨i, rfl, hread⟩ | ⟨order, horder⟩ := begin_cases options tool params
    · rw [step_research hread]
      exact hstudied _ _
    · rw [horder]
      cases order <;> simp [beginOrder]
  | studying plan study => exact hstudied plan study
  | noticed order => simp [step]
  | generated order answer =>
    match answer with
    | none => simp [step]
    | some (.error error) => simp [step]
    | some (.ok answer) => simp [step]

/-! ## The end of a handler -/

/-- An order is over after its request. -/
theorem noticed_finishes (order : Generation.Order) (m : Moment) :
    Finishes (step options) e .free m (.noticed order) := by
  refine finishes_of_keeps (fun s => ∃ answer, s = .generated order answer)
    (fun _ => ⟨trivial, fun answer => ⟨answer, rfl⟩⟩) ?_
  rintro m _ ⟨answer, rfl⟩
  match answer with
  | none => exact finishes_of_settle fun _ => ⟨_, rfl⟩
  | some (.error error) => exact finishes_of_settle fun _ => ⟨_, rfl⟩
  | some (.ok answer) => exact finishes_of_settle fun _ => ⟨_, rfl⟩

/-- **The handler of a built-in tool is over in the end or gets to any
instant**, whatever the service does, if the waits of its polls last. -/
theorem step_passes (hlasting : options.Lasting) (tool : String) (params : Json) (m : Moment)
    (b : Instant) : Passes (step options) e .free b m (.begin tool params) := by
  obtain ⟨i, rfl, hread⟩ | ⟨order, horder⟩ := begin_cases options tool params
  · -- its run is that of a study in other words, and these do not make it go on
    have hplan : (planOf options i).options.Lasting := hlasting
    obtain ⟨moves, hpasses⟩ := Study.study_passes (e := e.inside progressOf) hplan m b
    have hrun : ((handlers options).task research.name params).run e .free moves m = _ :=
      research_run hread moves
    obtain hover | hlater := hpasses
    · refine ⟨moves, .inl fun hunfinished => hover ?_⟩
      exact Outcome.map_eq_unfinished.1 ((congrArg Record.outcome hrun).symm.trans hunfinished)
    · exact ⟨moves, .inr (Nat.le_trans hlater (Nat.le_of_eq (congrArg (·.moment.now) hrun).symm))⟩
  · refine Finishes.passes ?_ b
    refine finishes_of_keeps (fun s => ∃ order, s = .noticed order) (fun cancelled => ?_) ?_
    · rw [horder]
      cases order with
      | ok order => exact ⟨order, rfl⟩
      | error f => trivial
    · rintro m _ ⟨order, rfl⟩
      exact noticed_finishes order m

/-! ## Tame calls -/

/-- **The calls of the built-in tools are tame**, if the waits of their polls
last and if neither a hook nor the service cancels the signal. -/
theorem tame_of_builtIn {i : Invoker Machine} {client : Client} {t : Tool} {c : Context}
    (hhandlers : i.handlers = handlers options)
    (hlasting : options.Lasting)
    (hstart : c.onStart ≠ some true) (hquiet : (settingOf client c).Quiet) :
    Tame i client t params c m where
  onStart := hstart
  quiet := hquiet
  spares := by
    rw [hhandlers]
    exact (step_neverCancels options).sparesSignal
  finite := by
    intro instant
    obtain ⟨moves, hpasses⟩ := step_passes (e := settingOf client c) hlasting t.name params
      (Moment.withStop { m with heard := 0 } none) instant
    refine ⟨moves, ?_⟩
    rw [Invoker.aloneOf, hhandlers]
    exact hpasses

end Toolbox

end Amanuensis
