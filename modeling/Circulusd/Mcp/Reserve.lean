import Circulusd.Mcp.Transitions

/-
The event reserve depends on the effect only through its policy, the retries it has left, and what
its latest attempt knows of the provider.
-/

namespace Circulusd.Mcp

open Effect

variable {effect : Effect} {attempt : AttemptRecord}

/-- The effect has one of the policies that a registration accepts. -/
def Effect.KnownPolicy (effect : Effect) : Prop :=
  effect.replayPolicy ∈ [ReplayPolicy.safe, ReplayPolicy.idempotencyKey, ReplayPolicy.never, ReplayPolicy.confirm]

theorem Effect.KnownPolicy.cases (known : effect.KnownPolicy) : effect.replayPolicy = .safe ∨
    effect.replayPolicy = .idempotencyKey ∨ effect.replayPolicy = .never ∨ effect.replayPolicy = .confirm := by
  simpa [KnownPolicy] using known

@[simp]
theorem Effect.latestAttempt_withAttempt (effect : Effect) (attempt : AttemptRecord) :
    (effect.withAttempt attempt).latestAttempt = attempt := by
  rw [latestAttempt, currentAttempt_withAttempt, Option.getD_some]

@[simp]
theorem Effect.latestAttempt_classified (effect : Effect) (attempt : AttemptRecord)
    (failure : FailureClass) (reason : String) :
    (effect.classified attempt failure reason).latestAttempt = { attempt with failure } :=
  latestAttempt_withAttempt effect _

/-- A classification changes what the reserve reads only by the failure of the latest attempt. -/
theorem Effect.reserve_classified (current : effect.currentAttempt = some attempt)
    (failure : FailureClass) (reason : String) :
    ((effect.classified attempt failure reason).reserveIn .failed =
        if failure = .unknown then effect.reserveIn .uncertain else 0) ∧
      (effect.classified attempt failure reason).reserveIn .uncertain = effect.reserveIn .uncertain ∧
      (effect.classified attempt failure reason).reserveIn .needsConfirmation =
        if effect.cancellationRequested then effect.requestedConfirmationEvents
        else max effect.knownRequestedConfirmationEvents
          (if failure = .ledgerAbsent then effect.lateUnrequestedEvents else effect.lateUnrequestedEvents + 1) := by
  have identified : (effect.classified attempt failure reason).hasProviderIdentity = effect.hasProviderIdentity := by
    rw [hasProviderIdentity, hasProviderIdentity, latestAttempt_classified, latestAttempt_of_current current]
  have kept : (effect.classified attempt failure reason).toEffectIdentity = effect.toEffectIdentity ∧
      (effect.classified attempt failure reason).cancellationRequested = effect.cancellationRequested ∧
      (effect.classified attempt failure reason).knownRequestedConfirmationEvents =
        effect.knownRequestedConfirmationEvents ∧
      (effect.classified attempt failure reason).dispatchedEvents = effect.dispatchedEvents :=
    ⟨rfl, rfl, rfl, rfl⟩
  simp only [reserveIn, lateUnrequestedEvents, explicitCancellationEvents, pendingCancellationEvents,
    requestedUnknownEvents, requestedConfirmationEvents, identified, kept, latestAttempt_classified, ne_eq, ite_not, and_self]

theorem Effect.reserve_of_state {state : State} (reached : effect.state = state) :
    effect.minimumRemainingEvents = effect.reserveIn state := by
  rw [minimumRemainingEvents, reached]

@[simp]
theorem Effect.reserve_moveTo (effect : Effect) (state : State) :
    (effect.moveTo state).minimumRemainingEvents = effect.reserveIn state := rfl

theorem Effect.reserve_held (effect : Effect) : effect.held.minimumRemainingEvents =
      if effect.replayPolicy = .confirm then effect.reserveIn .needsConfirmation
      else effect.reserveIn .uncertain := by
  rw [held, reserve_moveTo, apply_ite effect.reserveIn]

theorem Effect.reserve_retryOr (effect : Effect) (exhausted : State) :
    (effect.retryOr exhausted).minimumRemainingEvents = if effect.automaticRetriesUsed < effect.maxAutomaticRetries then
        effect.spendRetry.reserveIn .retryPending
      else effect.reserveIn exhausted := by
  unfold retryOr
  split <;> rfl

@[simp]
theorem Effect.automaticLeft_spendRetry (effect : Effect) :
    effect.spendRetry.automaticLeft = effect.automaticLeft - 1 :=
  Nat.sub_add_eq _ _ _

section

variable (effect)

/-- How the reserves of the states compare, by the policy and by what is known of the provider. -/
theorem Effect.reserves (known : effect.KnownPolicy) :
    6 ≤ effect.dispatchedEvents ∧ 3 ≤ effect.knownRequestedConfirmationEvents ∧
      effect.dispatchedEvents < effect.reserveIn .dispatching ∧
      effect.reserveIn .dispatching < effect.reserveIn .retryPending ∧
      (effect.replayPolicy = .never ∨ effect.automaticLeft = 0 →
        effect.dispatchedEvents + 2 ≤ effect.reserveIn .dispatching) ∧
      effect.pendingCancellationEvents < effect.lateUnrequestedEvents ∧
      (effect.replayPolicy = .confirm ∧
          effect.dispatchedEvents = effect.knownRequestedConfirmationEvents + 4 ∧
          effect.dispatchedEvents + 3 ≤ effect.reserveIn .dispatching ∧
          effect.pendingCancellationEvents = effect.requestedConfirmationEvents + 1 ∧
          effect.lateUnrequestedEvents = effect.requestedConfirmationEvents + 2 ∧
          (effect.hasProviderIdentity = true ∧ effect.requestedUnknownEvents = 2 ∧
              effect.requestedConfirmationEvents = effect.knownRequestedConfirmationEvents ∨
            effect.hasProviderIdentity = false ∧
              effect.requestedUnknownEvents = effect.knownRequestedConfirmationEvents + 2 ∧
              effect.requestedConfirmationEvents = effect.knownRequestedConfirmationEvents + 3) ∨
        effect.replayPolicy ≠ .confirm ∧
          effect.pendingCancellationEvents = effect.requestedUnknownEvents + 1 ∧
          (effect.hasProviderIdentity = true ∧ effect.requestedUnknownEvents = 2 ∧ effect.lateUnrequestedEvents = 4 ∨
            effect.hasProviderIdentity = false ∧ effect.requestedUnknownEvents = 4 ∧
              effect.lateUnrequestedEvents = effect.dispatchedEvents + 1)) := by
  cases identified : effect.hasProviderIdentity <;>
    rcases known.cases with policy | policy | policy | policy <;>
    simp [lateUnrequestedEvents, explicitCancellationEvents, pendingCancellationEvents, requestedUnknownEvents,
      requestedConfirmationEvents, knownRequestedConfirmationEvents, dispatchedEvents, confirmationBase, reserveIn,
      identified, policy] <;>
    grind

/-- A retry costs less than the attempt that it replaces. -/
theorem Effect.retry_lt (known : effect.KnownPolicy) (room : effect.automaticRetriesUsed < effect.maxAutomaticRetries) :
    effect.spendRetry.reserveIn .retryPending < effect.reserveIn .dispatching ∧
      (effect.replayPolicy = .safe ∨ effect.replayPolicy = .idempotencyKey →
        effect.spendRetry.reserveIn .retryPending < effect.dispatchedEvents) := by
  have left : 0 < effect.automaticLeft := by unfold automaticLeft; omega
  have policy : effect.spendRetry.replayPolicy = effect.replayPolicy := rfl
  have confirmation : effect.spendRetry.confirmationLeft = effect.confirmationLeft := rfl
  rcases known.cases with given | given | given | given <;>
    simp [reserveIn, dispatchedEvents, policy, given, confirmationBase, confirmation, left] <;> omega

end

/-- A cancellation that knows the provider's request costs less than one that has to search for it. -/
theorem Effect.identified_lt {next : Effect} (known : effect.KnownPolicy) (before : effect.hasProviderIdentity = false)
    (after : next.hasProviderIdentity = true) (policy : next.replayPolicy = effect.replayPolicy)
    (events : next.knownRequestedConfirmationEvents = effect.knownRequestedConfirmationEvents) :
    next.pendingCancellationEvents < effect.pendingCancellationEvents ∧
      next.pendingCancellationEvents < effect.requestedUnknownEvents ∧
      next.pendingCancellationEvents < effect.requestedConfirmationEvents := by
  have reserves := effect.reserves known
  have reached := next.reserves (by rwa [KnownPolicy, policy])
  grind [requestedConfirmationEvents]

theorem Effect.negotiated_lt (known : effect.KnownPolicy)
    (before : effect.preNegotiation = true) (after : (effect.withAttempt attempt).preNegotiation = false) :
    (effect.withAttempt attempt).reserveIn .dispatching < effect.reserveIn .dispatching := by
  have policy : (effect.withAttempt attempt).replayPolicy = effect.replayPolicy := rfl
  have base : (effect.withAttempt attempt).confirmationBase = effect.confirmationBase := rfl
  have left : (effect.withAttempt attempt).automaticLeft = effect.automaticLeft := rfl
  rcases known.cases with given | given | given | given <;>
    simp only [reserveIn, policy, base, left, given, before, after, if_true, Bool.false_eq_true, if_false] <;>
    omega

end Circulusd.Mcp
