import Amanuensis.Shutdown
/-!
# Shutting down, whoever else acts

Parties share a manager, and each makes calls of it one after the other
(`Call`). The two steps of a shutdown are steps of their own here: between
them any other party may act or look (`Sharing.turn`), in whatever order a
schedule has it. What every schedule keeps is `Sharing.Sound`, whose point is
that a party that is about to cancel the root finds a reason recorded; what
can be seen of the manager at any time follows from it (`shutdown_seen`).
-/


namespace Amanuensis

namespace Shutdown

/-! ## Parties and schedules -/

/-- What a party calls for. -/
inductive Call where
  /-- A signal. -/
  | token
  /-- A signal that descends from another. -/
  | child (parent : Nat)
  | cancel (signal : Nat)
  | shutdown (reason : Reason)
deriving DecidableEq, Repr

/-- The steps of a call. -/
def Call.steps : Call → List Event
  | .token => [.token]
  | .child parent => [.child parent]
  | .cancel signal => [.cancel signal]
  | .shutdown reason => [.record reason, .cancelRoot]

/-- A manager and the parties that share it. -/
structure Sharing where
  manager : Shutdown
  /-- The steps that have been made, in order. -/
  made : List Event
  /-- The steps that each party has still to make. -/
  left : List (List Event)
deriving DecidableEq, Repr

namespace Sharing

/-- Parties with calls to make, of a manager that nothing has happened to. -/
def start (calls : List (List Call)) : Sharing := ⟨new, [], calls.map (·.flatMap Call.steps)⟩

/-- A party makes its next step, if it has any left. -/
def turn (s : Sharing) (party : Nat) : Sharing :=
  match s.left[party]? with
  | some (event :: rest) => ⟨s.manager.apply event, s.made ++ [event], s.left.set party rest⟩
  | some [] | none => s

/-- The parties make their steps in the order of a schedule. -/
def run (s : Sharing) (schedule : List Nat) : Sharing := schedule.foldl turn s

/-- A party may be scheduled that has nothing to do. -/
theorem turn_cases (s : Sharing) (party : Nat) :
    s.turn party = s ∨ ∃ event rest, s.left[party]? = some (event :: rest) ∧
      s.turn party = ⟨s.manager.apply event, s.made ++ [event], s.left.set party rest⟩ := by
  cases h : s.left[party]? with
  | none => exact .inl (by rw [turn, h])
  | some steps =>
    cases steps with
    | nil => exact .inl (by rw [turn, h])
    | cons event rest => exact .inr ⟨event, rest, rfl, by rw [turn, h]⟩

/-- What every turn keeps a schedule keeps. -/
theorem run_keeps (holds : Sharing → Prop) (hturn : ∀ s party, holds s → holds (s.turn party))
    {s : Sharing} (h : holds s) (schedule : List Nat) : holds (s.run schedule) := by
  induction schedule generalizing s with
  | nil => exact h
  | cons party schedule ih => exact ih (hturn s party h)

end Sharing

/-! ## Single steps -/

variable {s : Shutdown} {reason : Reason} {i j : Nat}

/-- The reason that a step records, if it is the first to do so. -/
def Event.reason? : Event → Option Reason
  | .record reason => some reason
  | .token | .child _ | .cancel _ | .cancelRoot => none

/-- Does a step hand out a signal? -/
def Event.handsOut : Event → Bool
  | .token | .child _ => true
  | .cancel _ | .record _ | .cancelRoot => false

/-- The signals above the one that a step hands out. -/
def above (s : Shutdown) : Event → List Nat
  | .child parent => s.line parent
  | .token | .cancel _ | .record _ | .cancelRoot => []

/-- A recorded reason stays, and only a record adds one. -/
theorem apply_reason (s : Shutdown) (event : Event) :
    (s.apply event).reason = (s.reason <|> event.reason?) := by
  cases event with
  | record reason => rfl
  | token | child | cancel | cancelRoot => simp [apply, handOut, Event.reason?]

theorem apply_reason_of_some (h : s.reason = some reason) (event : Event) :
    (s.apply event).reason = some reason := by
  rw [apply_reason, h]
  rfl

/-- The root is cancelled by the second step of a shutdown and by nothing
else. -/
theorem apply_rootCancelled (s : Shutdown) (event : Event) :
    (s.apply event).rootCancelled = true ↔ s.rootCancelled = true ∨ event = .cancelRoot := by
  cases event <;> simp [apply, handOut]

theorem lines_cancel (s : Shutdown) (i : Nat) :
    (s.apply (.cancel i)).signals.map Signal.above = s.signals.map Signal.above := by
  refine List.ext_getElem? fun j => ?_
  simp only [apply, List.getElem?_map, List.getElem?_modify]
  cases s.signals[j]? with
  | none => rfl
  | some signal => by_cases h : i = j <;> simp [h]

/-- A step puts no signal under another one. A signal that it hands out comes
last. -/
theorem apply_lines (s : Shutdown) (event : Event) :
    (s.apply event).signals.map Signal.above =
      s.signals.map Signal.above ++ if event.handsOut then [s.above event] else [] := by
  cases event with
  | token | child => simp [apply, handOut, Event.handsOut, above]
  | cancel i => rw [lines_cancel]; exact (List.append_nil _).symm
  | record | cancelRoot => exact (List.append_nil _).symm

theorem line_eq (s : Shutdown) (i : Nat) :
    s.line i = ((s.signals.map Signal.above)[i]?.map (i :: ·)).getD [] := by
  rw [line, List.getElem?_map]
  cases s.signals[i]? <;> rfl

/-- So the lines of signals stay as they are. -/
theorem apply_line (event : Event) (h : i < s.signals.length) :
    (s.apply event).line i = s.line i := by
  rw [line_eq, line_eq, apply_lines,
    List.getElem?_append_left (by rwa [List.length_map])]

theorem apply_length (s : Shutdown) (event : Event) :
    (s.apply event).signals.length = s.signals.length + if event.handsOut then 1 else 0 := by
  have hlength := congrArg List.length (apply_lines s event)
  rw [List.length_map, List.length_append, List.length_map] at hlength
  rw [hlength]
  split <;> rfl

/-- A signal that is handed out now descends from those above it. -/
theorem line_handedOut {event : Event} (h : event.handsOut = true) :
    (s.apply event).line s.signals.length = s.signals.length :: s.above event := by
  rw [line_eq, apply_lines, List.getElem?_append_right (Nat.le_of_eq (List.length_map _)),
    List.length_map, Nat.sub_self, if_pos h]
  rfl

/-- Cancelling a signal cancels it, and leaves all others uncancelled
themselves. -/
theorem isCancelledItself_cancel (hne : j ≠ i) :
    (s.apply (.cancel i)).isCancelledItself j = s.isCancelledItself j := by
  have hkept : (s.apply (.cancel i)).signals[j]? = s.signals[j]? :=
    (List.getElem?_modify _ _ _ _).trans (by simp [Ne.symm hne])
  rw [isCancelledItself, hkept, isCancelledItself]

theorem line_cancel (s : Shutdown) (i j : Nat) : (s.apply (.cancel i)).line j = s.line j := by
  rw [line_eq, line_eq, lines_cancel]

/-- **Cancelling a signal reaches those that descend from it, and no other.** -/
theorem isCancelled_cancel (h : i ∉ s.line j) :
    (s.apply (.cancel i)).isCancelled j = s.isCancelled j := by
  have hline : (s.line j).any (s.apply (.cancel i)).isCancelledItself =
      (s.line j).any s.isCancelledItself := by
    rw [Bool.eq_iff_iff, List.any_eq_true, List.any_eq_true]
    refine exists_congr fun k => and_congr_right fun hk => ?_
    have hne : k ≠ i := by
      rintro rfl
      exact h hk
    rw [isCancelledItself_cancel hne]
  rw [isCancelled, line_cancel, hline]
  rfl

/-! ## What every schedule keeps -/

/-- A party's steps are those of calls, or it has begun a shutdown: then it is
about to cancel the root, and a reason is recorded. -/
def Pending (s : Shutdown) (steps : List Event) : Prop :=
  (∃ calls : List Call, steps = calls.flatMap Call.steps) ∨
    s.reason.isSome = true ∧ ∃ calls : List Call, steps = .cancelRoot :: calls.flatMap Call.steps

/-- The step of a party leaves it with such steps, and does not come to cancel
the root before a reason is recorded. -/
theorem Pending.next {event : Event} {rest : List Event} (h : s.Pending (event :: rest)) :
    (s.apply event).Pending rest ∧ (event = .cancelRoot → s.reason.isSome = true) := by
  obtain ⟨calls, hcalls⟩ | ⟨hreason, calls, hcalls⟩ := h
  · cases calls with
    | nil => cases hcalls
    | cons call calls =>
      cases call with
      | token | child | cancel =>
        cases hcalls
        exact ⟨.inl ⟨calls, rfl⟩, nofun⟩
      | shutdown reason =>
        -- its first step leaves a reason recorded, be it this one or an earlier one
        cases hcalls
        refine ⟨.inr ⟨?_, calls, rfl⟩, nofun⟩
        rw [apply_reason]
        cases s.reason <;> rfl
  · cases hcalls
    exact ⟨.inl ⟨calls, rfl⟩, fun _ => hreason⟩

/-- A party that waits while another one makes a step. -/
theorem Pending.apply {steps : List Event} (h : s.Pending steps) (event : Event) :
    (s.apply event).Pending steps := by
  obtain hcalls | ⟨hreason, hcalls⟩ := h
  · exact .inl hcalls
  · obtain ⟨reason, hreason⟩ := Option.isSome_iff_exists.1 hreason
    exact .inr ⟨by rw [apply_reason_of_some hreason]; rfl, hcalls⟩

namespace Sharing

/-- What has been made of a manager by the steps so far. -/
structure Sound (s : Sharing) : Prop where
  pending : ∀ steps ∈ s.left, s.manager.Pending steps
  reason : s.manager.reason = (s.made.filterMap Event.reason?).head?
  root : s.manager.rootCancelled = true ↔ .cancelRoot ∈ s.made
  /-- A reason comes before every cancellation of the root. -/
  told : s.manager.rootCancelled = true → s.manager.reason.isSome = true
  /-- The signals are those that have been handed out. -/
  length : s.manager.signals.length = (s.made.filter Event.handsOut).length
  alone : ∀ i, (s.made.filter Event.handsOut)[i]? = some .token → s.manager.line i = [i]

theorem start_sound (calls : List (List Call)) : (start calls).Sound where
  pending := by
    intro steps hsteps
    obtain ⟨calls, -, rfl⟩ := List.mem_map.1 hsteps
    exact .inl ⟨calls, rfl⟩
  reason := rfl
  root := by simp [start, new]
  told := nofun
  length := rfl
  alone := nofun

theorem Sound.turn {s : Sharing} (h : s.Sound) (party : Nat) : (s.turn party).Sound := by
  obtain heq | ⟨event, rest, hleft, heq⟩ := s.turn_cases party
  · rwa [heq]
  · rw [heq]
    obtain ⟨hnext, hreason⟩ := (h.pending _ (List.mem_of_getElem? hleft)).next
    refine ⟨?_, ?_, ?_, ?_, ?_, ?_⟩
    · intro steps hsteps
      obtain hmem | rfl := List.mem_or_eq_of_mem_set hsteps
      · exact (h.pending steps hmem).apply event
      · exact hnext
    · simp only [apply_reason, h.reason, List.filterMap_append, List.head?_append]
      cases (s.made.filterMap Event.reason?).head? <;> cases event <;> rfl
    · rw [apply_rootCancelled, h.root, List.mem_append, List.mem_singleton, eq_comm]
    · intro hroot
      have hbefore : s.manager.reason.isSome = true := by
        obtain hroot | hevent := (apply_rootCancelled _ _).1 hroot
        · exact h.told hroot
        · exact hreason hevent
      obtain ⟨reason, hsome⟩ := Option.isSome_iff_exists.1 hbefore
      exact Option.isSome_iff_exists.2 ⟨reason, apply_reason_of_some hsome event⟩
    · simp only [apply_length, h.length, List.filter_append, List.length_append]
      cases event <;> rfl
    · intro i hi
      rw [List.filter_append] at hi
      by_cases hlt : i < s.manager.signals.length
      · rw [List.getElem?_append_left (h.length ▸ hlt)] at hi
        exact (apply_line event hlt).trans (h.alone i hi)
      · -- the signal that is handed out by this very step
        rw [List.getElem?_append_right (h.length ▸ Nat.not_lt.1 hlt), ← h.length] at hi
        obtain rfl : .token = event :=
          List.mem_singleton.1 (List.mem_filter.1 (List.mem_of_getElem? hi)).1
        have hindex : i - s.manager.signals.length < 1 := (List.getElem?_eq_some_iff.1 hi).1
        obtain rfl : i = s.manager.signals.length := by omega
        exact line_handedOut rfl

theorem Sound.run {s : Sharing} (h : s.Sound) (schedule : List Nat) : (s.run schedule).Sound :=
  run_keeps Sound (fun _ party h => h.turn party) h schedule

/-- A reason that is recorded is there for good. -/
theorem run_reason {s : Sharing} (h : s.manager.reason = some reason) (later : List Nat) :
    (s.run later).manager.reason = some reason := by
  refine run_keeps (fun s => s.manager.reason = some reason) (fun s party h => ?_) h later
  obtain heq | ⟨event, rest, -, heq⟩ := s.turn_cases party
  · rwa [heq]
  · rw [heq]
    exact apply_reason_of_some h event

/-- A step that has been made has been made for good. -/
theorem run_made {s : Sharing} {event : Event} (h : event ∈ s.made) (later : List Nat) :
    event ∈ (s.run later).made := by
  refine run_keeps (fun s => event ∈ s.made) (fun s party h => ?_) h later
  obtain heq | ⟨step, rest, -, heq⟩ := s.turn_cases party
  · rwa [heq]
  · rw [heq]
    exact List.mem_append_left _ h

/-! ## What can be seen -/

/-- What can be seen of a manager at any time, by parties that see it while
others act. -/
structure Seen (s : Sharing) : Prop where
  /-- Who finds it shut down finds a reason. -/
  shutdown : s.manager.isShutdown = true → s.manager.reason.isSome = true
  /-- So does who finds a signal cancelled, unless it was cancelled itself or
  through one that it descends from. -/
  signal : ∀ i, s.manager.isCancelled i = true →
    (∀ j ∈ s.manager.line i, s.manager.isCancelledItself j = false) →
    s.manager.reason.isSome = true
  /-- The signals of the manager itself descend from none but the root. -/
  alone : ∀ i, (s.made.filter Event.handsOut)[i]? = some .token → s.manager.line i = [i]
  /-- The reason is the first that was recorded. -/
  first : s.manager.reason = (s.made.filterMap Event.reason?).head?
  /-- It never changes. -/
  kept : ∀ reason, s.manager.reason = some reason →
    ∀ later, (s.run later).manager.reason = some reason
  /-- After a shutdown every signal is cancelled, whenever it was or will be
  handed out. -/
  ended : .cancelRoot ∈ s.made → ∀ later, (s.run later).manager.isShutdown = true ∧
    ∀ i < (s.run later).manager.signals.length, (s.run later).manager.isCancelled i = true
  /-- Nobody shuts a manager down by cancelling a signal, or cancels another
  signal that does not descend from it. -/
  apart : ∀ i, (s.manager.apply (.cancel i)).isShutdown = s.manager.isShutdown ∧
    (s.manager.apply (.cancel i)).reason = s.manager.reason ∧
    ∀ j, i ∉ s.manager.line j →
      (s.manager.apply (.cancel i)).isCancelled j = s.manager.isCancelled j

end Sharing

/-- Whatever is cancelled by none of its line is cancelled by the root. -/
theorem rootCancelled_of_isCancelled (h : s.isCancelled i = true)
    (hline : ∀ j ∈ s.line i, s.isCancelledItself j = false) : s.rootCancelled = true := by
  obtain hroot | hany := (Bool.or_eq_true _ _).mp h
  · exact hroot
  · obtain ⟨j, hj, hcancelled⟩ := List.any_eq_true.1 hany
    exact absurd (hcancelled.symm.trans (hline j hj)) Bool.noConfusion

/-- Two parties shut a manager down at once, and the one that records its
reason last cancels the root first. A third cancels a signal in between, and
takes another one when all is over. -/
example :
    let s := (Sharing.start [[.shutdown .user], [.shutdown .signal],
      [.token, .token, .cancel 0, .token]]).run [2, 2, 0, 1, 2, 1]
    s.manager.reason = some .user ∧ s.manager.isShutdown = true ∧
      (s.run [2, 0]).manager.cancelledSignals = [true, true, true] := by
  decide

end Shutdown

end Amanuensis
