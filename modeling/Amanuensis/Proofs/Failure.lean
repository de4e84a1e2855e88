import Amanuensis.Client.Error
/-!
# Failures that may pass

Whether it may help to try again is a field of a failure, which each of its
causes fills in. A failure is `Regular` if this agrees with its kind: what
may pass is that the connection failed, that a call ran into its deadline,
or that the service is asked too often, and nothing else. All causes are
regular but one, which is that a handler failed by itself; a failure of that
kind never is.
-/


namespace Amanuensis

namespace Failure

/-- The kinds of failure that may pass. -/
inductive Kind.Passes : Kind → Prop
  | network : Kind.network.Passes
  | timeout : Kind.timeout.Passes
  | rateLimit : (Kind.remote "RATE_LIMIT").Passes

/-- A failure that no handler made up, and that may be tried again if and
only if its kind says so. -/
structure Regular (f : Failure) : Prop where
  kind : f.kind ≠ .handlerError
  retryable : f.retryable = true ↔ f.kind.Passes

theorem network_regular (message : String) : (network message).Regular :=
  ⟨nofun, fun _ => .network, fun _ => rfl⟩

theorem remote_regular (code message : String) : (remote code message).Regular := by
  refine ⟨nofun, fun h => ?_, fun h => ?_⟩
  · obtain rfl : code = "RATE_LIMIT" := of_decide_eq_true h
    exact .rateLimit
  · cases h
    rfl

theorem pollingTimeout_regular (elapsed : Duration) (polls : UInt32) :
    (pollingTimeout elapsed polls).Regular :=
  ⟨nofun, nofun, nofun⟩

theorem pollingCancelled_regular : pollingCancelled.Regular := ⟨nofun, nofun, nofun⟩

theorem toolNotFound_regular (name : String) : (toolNotFound name).Regular :=
  ⟨nofun, nofun, nofun⟩

theorem validation_regular (message : String) : (validation message).Regular :=
  ⟨nofun, nofun, nofun⟩

theorem timeout_regular (tool : String) (deadline : Duration) : (timeout tool deadline).Regular :=
  ⟨nofun, fun _ => .timeout, fun _ => rfl⟩

theorem cancelled_regular (tool : String) : (cancelled tool).Regular := ⟨nofun, nofun, nofun⟩

/-- Whatever a request to the service fails with is one of these. -/
theorem toFailure_regular (error : Client.Error) : error.toFailure.Regular := by
  cases error with
  | network message => exact network_regular message
  | api code message => exact remote_regular code message
  | cancelled => exact ⟨nofun, nofun, nofun⟩
  | invalidResponse message => exact remote_regular _ message
  | invalidRequest message => exact validation_regular message

end Failure

end Amanuensis
