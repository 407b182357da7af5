import Circulusd.Mcp.Validate

/-
The deterministic transition of an effect. `Gateway.apply` checks the stored effect and the event,
moves the effect, and keeps a reserve of events for what may still have to be recorded.
-/

namespace Circulusd.Mcp

open Checked Platform GatewayError

/-- An assignment to the last element of the attempts. -/
def Effect.withAttempt (effect : Effect) (attempt : AttemptRecord) : Effect :=
  { effect with attempts := effect.attempts.dropLast ++ [attempt] }

def Effect.dispatchCommand (effect : Effect) (attempt : Nat) : DispatchCommand where
  scope := effect.scope
  server := effect.server
  toolName := effect.toolName
  inputCanonical := effect.inputCanonical
  invocationId := effect.scope.invocationId
  requestDigest := effect.requestDigest
  replayPolicy := effect.replayPolicy
  idempotencyKey := if effect.replayPolicy = .idempotencyKey then effect.scope.invocationId.value else ""
  attempt := attempt

def Effect.cancelCommand (effect : Effect) (attempt : AttemptRecord) : CancelCommand where
  scope := effect.scope
  server := effect.server
  toolName := effect.toolName
  invocationId := effect.scope.invocationId
  requestDigest := effect.requestDigest
  providerRequestId := attempt.providerRequestId
  attempt := attempt.attempt
  negotiation := attempt.negotiation

/-- The attempts that the retries granted so far allow. -/
def Effect.allowedAttempts (effect : Effect) : Nat :=
  1 + effect.automaticRetriesUsed + effect.confirmationRetriesUsed

def Effect.beginDispatch (effect : Effect) : Except Refusal Transition := do
  refuseIf ((effect.state ≠ .admitted ∧ effect.state ≠ .retryPending) ∨
    effect.cancellationRequested = true) invalidTransition
  refuseIf (effect.allowedAttempts ≤ effect.attempts.length) invalidTransition
  let attempt := effect.attempts.length + 1
  let next := { effect with
    attempts := effect.attempts ++ [.fresh attempt], state := .dispatching, failureReason := "" }
  return { effect := next, dispatch := some (next.dispatchCommand attempt), cancel := none }

def Effect.recordNegotiation (effect : Effect) (event : Event) : Except Refusal Effect := do
  let attempt ← require effect.currentAttempt invalidTransition
  refuseIf (¬ (effect.state = .dispatching ∧ attempt.providerRequestId = "" ∧
      attempt.hadOutput = false ∧ attempt.failure = .none ∧ attempt.negotiation = .zero ∧
      ValidNegotiationReceipt event.negotiation effect.toEffectIdentity attempt.attempt))
    invalidTransition
  return effect.withAttempt { attempt with negotiation := event.negotiation }

def Effect.acceptProvider (effect : Effect) (event : Event) : Except Refusal Effect := do
  let attempt ← require effect.currentAttempt invalidTransition
  refuseIf (¬ (effect.state = .dispatching ∧ attempt.providerRequestId = "" ∧
      attempt.hadOutput = false ∧ attempt.failure = .none ∧
      ValidNegotiationReceipt attempt.negotiation effect.toEffectIdentity attempt.attempt))
    invalidTransition
  return { effect.withAttempt { attempt with providerRequestId := event.providerRequestId } with
    state := .dispatched }

def Gateway.appendChunk (gateway : Gateway) (effect : Effect) (event : Event) : Except Refusal Effect := do
  let attempt ← require effect.currentAttempt invalidTransition
  refuseIf (¬ ((effect.state = .dispatched ∨ effect.state = .streaming) ∧
    attempt.providerRequestId ≠ "")) invalidTransition
  refuseIf (gateway.bounds.maxOutputBytes - effect.streamBytes < event.chunk.length ∨
    gateway.bounds.maxChunks ≤ effect.chunkCount) outputLimit
  return { effect.withAttempt { attempt with hadOutput := true } with
    chunkCount := effect.chunkCount + 1
    streamBytes := effect.streamBytes + event.chunk.length
    state := .streaming }

def Effect.commitCall (effect : Effect) (event : Event) : Except Refusal Effect := do
  refuseIf (effect.state ∉ [State.dispatched, State.streaming, State.cancellationPending,
    State.uncertain, State.needsConfirmation, State.failed]) invalidTransition
  let attempt ← require effect.currentAttempt invalidTransition
  refuseIf (effect.state = .failed ∧ attempt.failure ≠ .unknown) invalidTransition
  refuseIf (attempt.providerRequestId = "" ∧ event.externalCommitId = "") invalidTransition
  return { effect with
    output := event.output, externalCommitId := event.externalCommitId, failureReason := ""
    state := .externallyCommitted }

def Effect.completeSettlement (effect : Effect) : Except Refusal Effect := do
  refuseIf (effect.state ≠ .externallyCommitted ∨ effect.output = []) invalidTransition
  return { effect with state := .completed }

/-- The states from which a lost or absent outcome can still be recorded. -/
def State.unresolvable : State → Bool
  | .dispatching | .dispatched | .streaming | .cancellationPending | .uncertain
  | .needsConfirmation | .failed => true
  | _ => false

def Effect.moveTo (effect : Effect) (state : State) : Effect :=
  { effect with state }

@[simp]
theorem Effect.moveTo_state (effect : Effect) (state : State) : (effect.moveTo state).state = state := rfl

def Effect.spendRetry (effect : Effect) : Effect :=
  { effect with automaticRetriesUsed := effect.automaticRetriesUsed + 1 }

/-- The effect waits for the user under the confirm policy and stays uncertain under the others. -/
def Effect.held (effect : Effect) : Effect :=
  effect.moveTo (if effect.replayPolicy = .confirm then .needsConfirmation else .uncertain)

def Effect.retryOr (effect : Effect) (exhausted : State) : Effect :=
  if effect.automaticRetriesUsed < effect.maxAutomaticRetries then
    effect.spendRetry.moveTo .retryPending
  else effect.moveTo exhausted

/-- The latest attempt takes the class, and the effect its reason. -/
def Effect.classified (effect : Effect) (attempt : AttemptRecord) (failure : FailureClass) (reason : String) : Effect :=
  { effect.withAttempt { attempt with failure } with failureReason := reason }

/-- The branch of `applyFailure` for an absent or unknown outcome. -/
def Effect.applyUnresolved (effect : Effect) (attempt : AttemptRecord) (failure : FailureClass)
    (reason : String) : Except Refusal Effect := do
  refuseIf (effect.state.unresolvable = false) invalidTransition
  let classified := effect.classified attempt failure reason
  if effect.cancellationRequested then
    if failure = .ledgerAbsent then
      return { classified with state := .cancelled, failureReason := "" }
    return classified.held
  -- Authoritative absence makes a failure of unknown outcome definitive.
  if failure = .ledgerAbsent ∧ effect.state = .failed ∧ attempt.failure = .unknown then
    return classified.moveTo .failed
  -- The caller may have seen the partial stream, and no ledger can prove that a replay is safe.
  if failure = .unknown ∧ attempt.hadOutput ∧ ¬ effect.supportsInvocationLedger then
    return classified.held
  match effect.replayPolicy with
  | .safe => return classified.retryOr .failed
  | .idempotencyKey =>
    refuseIf (effect.supportsIdempotencyKey = false) invalidTransition
    return classified.retryOr (if failure = .ledgerAbsent then .failed else .uncertain)
  | .never =>
    return classified.moveTo (if failure = .ledgerAbsent then .failed else .uncertain)
  | .confirm => return classified.moveTo .needsConfirmation
  | .other _ => .error ↑invalidTransition

def Effect.applyFailure (effect : Effect) (failure : FailureClass) (reason : String) : Except Refusal Effect := do
  let attempt ← require effect.currentAttempt invalidTransition
  match failure with
  | .definitelyNotSent =>
    refuseIf (effect.state ≠ .dispatching ∨ attempt.providerRequestId ≠ "" ∨ attempt.hadOutput = true) invalidTransition
    return (effect.classified attempt failure reason).retryOr .failed
  | .rejected =>
    refuseIf ((effect.state ≠ .dispatching ∧ effect.state ≠ .dispatched) ∨ attempt.hadOutput = true) invalidTransition
    return (effect.classified attempt failure reason).moveTo .failed
  | .ledgerAbsent | .unknown => effect.applyUnresolved attempt failure reason
  | .none | .externalFailed | .other _ => .error ↑invalidTransition

def Effect.requestCancel (effect : Effect) : Except Refusal Transition := do
  let requested := { effect with cancellationRequested := true }
  let cancelled := { requested with state := .cancelled, failureReason := "" }
  let pending (attempt : AttemptRecord) : Transition :=
    let next := { requested with state := .cancellationPending }
    { effect := next, dispatch := none, cancel := some (next.cancelCommand attempt) }
  match effect.state with
  | .admitted => return { effect := cancelled, dispatch := none, cancel := none }
  | .retryPending =>
    let attempt ← require effect.currentAttempt invalidTransition
    if attempt.failure = .definitelyNotSent ∨ attempt.failure = .ledgerAbsent then
      return { effect := cancelled, dispatch := none, cancel := none }
    return pending attempt
  | .dispatching | .dispatched | .streaming | .uncertain | .needsConfirmation =>
    -- The source ignores whether an attempt exists and sends the zero attempt otherwise.
    return pending (effect.currentAttempt.getD (.fresh 0))
  | .failed =>
    let attempt ← require effect.currentAttempt invalidTransition
    refuseIf (attempt.failure ≠ .unknown) invalidTransition
    return pending attempt
  | .cancellationPending | .externallyCommitted | .completed | .cancelled | .other _ =>
    .error ↑invalidTransition

def Gateway.applyCommittedRecord (gateway : Gateway) (effect : Effect) (record : LedgerRecord) :
    Except Refusal Effect := do
  refuseIf (¬ (gateway.ValidLedgerRecord record false ∧
      record.invocationId = effect.scope.invocationId ∧ record.requestDigest = effect.requestDigest ∧
      record.status = .committed)) ledgerMismatch
  let attempt ← require effect.currentAttempt ledgerMismatch
  refuseIf (record.providerRequestId ≠ "" ∧ attempt.providerRequestId ≠ "" ∧
    attempt.providerRequestId ≠ record.providerRequestId) ledgerMismatch
  let learned := if attempt.providerRequestId = "" then record.providerRequestId
    else attempt.providerRequestId
  return { effect.withAttempt { attempt with providerRequestId := learned } with
    output := record.output, externalCommitId := record.externalCommitId, failureReason := ""
    state := .externallyCommitted }

def Gateway.resolveCancellation (gateway : Gateway) (effect : Effect) (event : Event) : Except Refusal Effect := do
  refuseIf (effect.state ≠ .cancellationPending) invalidTransition
  let attempt ← require effect.currentAttempt invalidTransition
  match event.cancellation with
  | .prevented =>
    refuseIf (attempt.providerRequestId ≠ "" ∨ attempt.hadOutput = true) invalidTransition
    return { effect with state := .cancelled, failureReason := "" }
  | .absent => return { effect with state := .cancelled, failureReason := "" }
  | .committed => gateway.applyCommittedRecord effect event.ledger
  | .unknown =>
    return { effect.withAttempt { attempt with failure := .unknown } with
      failureReason := cancellationUnknownReason }.held
  -- The event check has refused every other status.
  | .none | .other _ => return effect

/-- A failed effect is observed again only while its outcome is unknown. -/
def Effect.observable (effect : Effect) : Bool :=
  match effect.state with
  | .dispatching | .dispatched | .streaming | .cancellationPending | .uncertain
  | .needsConfirmation => true
  | .failed => effect.currentAttempt.any fun attempt => attempt.failure = .unknown
  | _ => false

def Effect.resume (effect : Effect) (attempt : AttemptRecord) : Effect :=
  { effect.withAttempt { attempt with failure := .none } with
    state := if effect.cancellationRequested then .cancellationPending
      else if attempt.hadOutput then .streaming
      else .dispatched
    failureReason := "" }

def Effect.observeInflight (effect : Effect) (record : LedgerRecord) : Except Refusal Effect := do
  let attempt ← require effect.currentAttempt ledgerMismatch
  refuseIf (record.providerRequestId = "" ∨ (attempt.providerRequestId ≠ "" ∧
    attempt.providerRequestId ≠ record.providerRequestId)) ledgerMismatch
  let identified := { attempt with providerRequestId := record.providerRequestId }
  match effect.state with
  | .dispatching | .uncertain | .needsConfirmation | .failed => return effect.resume identified
  | _ => return effect.withAttempt identified

def Effect.observeFailed (effect : Effect) (record : LedgerRecord) : Except Refusal Effect := do
  let attempt ← require effect.currentAttempt ledgerMismatch
  refuseIf (record.providerRequestId ≠ "" ∧ attempt.providerRequestId ≠ "" ∧
    attempt.providerRequestId ≠ record.providerRequestId) ledgerMismatch
  let learned := if attempt.providerRequestId = "" then record.providerRequestId
    else attempt.providerRequestId
  return { effect.withAttempt { attempt with providerRequestId := learned, failure := .externalFailed } with
    state := .failed, failureReason := externalFailedReason }

def Gateway.observeRecovery (gateway : Gateway) (effect : Effect) (record : LedgerRecord) : Except Refusal Effect := do
  refuseIf (effect.observable = false) invalidTransition
  refuseIf (record.invocationId ≠ effect.scope.invocationId ∨
    record.requestDigest ≠ effect.requestDigest) ledgerMismatch
  match record.status with
  | .inflight => effect.observeInflight record
  | .committed => gateway.applyCommittedRecord effect record
  | .failed => effect.observeFailed record
  | .absent => effect.applyFailure .ledgerAbsent ledgerAbsentReason
  | .unknown => effect.applyFailure .unknown ledgerUnknownReason
  | .none | .other _ => .error ↑invalidTransition

def Effect.decideConfirmation (effect : Effect) (decision : ConfirmationDecision) : Except Refusal Effect := do
  refuseIf (effect.state ≠ .needsConfirmation ∨ effect.replayPolicy ≠ .confirm) invalidTransition
  match decision with
  | .retry =>
    refuseIf (effect.maxConfirmationRetries ≤ effect.confirmationRetriesUsed) invalidTransition
    return { effect with
      confirmationRetriesUsed := effect.confirmationRetriesUsed + 1
      cancellationRequested := false, state := .retryPending
      failureReason := confirmationRetryReason }
  | .abandon =>
    -- Abandoning a retry is no evidence that the invocation was absent.
    if effect.cancellationRequested then
      return { effect with state := .uncertain, failureReason := confirmationAbandonUnknownReason }
    return { effect with state := .failed, failureReason := confirmationDeclinedReason }
  | .none | .other _ => return effect

/-- A transition that emits no command. -/
def Transition.quiet (effect : Effect) : Transition :=
  { effect, dispatch := none, cancel := none }

@[simp]
theorem Transition.quiet_effect (effect : Effect) : (Transition.quiet effect).effect = effect := rfl

/-- The switch of `Apply` over the kinds of events. -/
def Gateway.move (gateway : Gateway) (effect : Effect) (event : Event) : Except Refusal Transition :=
  match event.kind with
  | .beginDispatch => effect.beginDispatch
  | .negotiationRecorded => Transition.quiet <$> effect.recordNegotiation event
  | .providerAccepted => Transition.quiet <$> effect.acceptProvider event
  | .outputChunk => Transition.quiet <$> gateway.appendChunk effect event
  | .callCommitted => Transition.quiet <$> effect.commitCall event
  | .settlementCompleted => Transition.quiet <$> effect.completeSettlement
  | .dispatchFailed => Transition.quiet <$> effect.applyFailure event.failure event.reason
  | .cancelRequested => effect.requestCancel
  | .cancellationResolved => Transition.quiet <$> gateway.resolveCancellation effect event
  | .recoveryObserved => Transition.quiet <$> gateway.observeRecovery effect event.ledger
  | .confirmationDecided => Transition.quiet <$> effect.decideConfirmation event.decision
  | .other _ => .ok (.quiet effect)

section Reserve

variable (effect : Effect)

def Effect.latestAttempt : AttemptRecord :=
  effect.currentAttempt.getD (.fresh 0)

def Effect.automaticLeft : Nat :=
  effect.maxAutomaticRetries - effect.automaticRetriesUsed

def Effect.confirmationLeft : Nat :=
  effect.maxConfirmationRetries - effect.confirmationRetriesUsed

def Effect.hasProviderIdentity : Bool :=
  effect.latestAttempt.providerRequestId ≠ ""

def Effect.preNegotiation : Bool :=
  effect.latestAttempt.negotiation = .zero

def Effect.confirmationBase : Nat :=
  3 * effect.automaticLeft + 10 * effect.confirmationLeft

def Effect.knownRequestedConfirmationEvents : Nat :=
  if 0 < effect.confirmationLeft then effect.confirmationBase + 3 else 3

def Effect.requestedConfirmationEvents : Nat :=
  if effect.hasProviderIdentity then effect.knownRequestedConfirmationEvents
  else effect.knownRequestedConfirmationEvents + 3

def Effect.requestedUnknownEvents : Nat :=
  if effect.hasProviderIdentity then 2
  else if effect.replayPolicy = .confirm then effect.knownRequestedConfirmationEvents + 2
  else 4

def Effect.pendingCancellationEvents : Nat :=
  if effect.replayPolicy = .confirm then effect.requestedConfirmationEvents + 1
  else effect.requestedUnknownEvents + 1

def Effect.explicitCancellationEvents : Nat :=
  effect.pendingCancellationEvents + 1

def Effect.dispatchedEvents : Nat :=
  match effect.replayPolicy with
  | .safe | .idempotencyKey => if 0 < effect.automaticLeft then 4 * effect.automaticLeft + 7 else 6
  | .confirm => effect.knownRequestedConfirmationEvents + 4
  | .never | .other _ => 6

def Effect.lateUnrequestedEvents : Nat :=
  max (if effect.hasProviderIdentity then 2 else effect.dispatchedEvents + 1) effect.explicitCancellationEvents

/-- The events that may still have to be recorded for an effect in each state. The source computes
in 32 bits; a valid effect has used no more retries than it may. -/
def Effect.reserveIn : State → Nat
  | .completed | .cancelled => 0
  | .externallyCommitted => 1
  | .failed =>
    if effect.latestAttempt.failure ≠ .unknown then 0
    else if effect.cancellationRequested then effect.requestedUnknownEvents
    else effect.lateUnrequestedEvents
  | .uncertain =>
    if effect.cancellationRequested then effect.requestedUnknownEvents
    else effect.lateUnrequestedEvents
  | .cancellationPending => effect.pendingCancellationEvents
  | .needsConfirmation =>
    if effect.cancellationRequested then effect.requestedConfirmationEvents
    else max effect.knownRequestedConfirmationEvents
      (if effect.latestAttempt.failure ≠ .ledgerAbsent then effect.lateUnrequestedEvents + 1
        else effect.lateUnrequestedEvents)
  | .admitted | .retryPending =>
    match effect.replayPolicy with
    | .safe | .idempotencyKey => 4 * effect.automaticLeft + 10
    | .never => 3 * effect.automaticLeft + 10
    | .confirm => effect.confirmationBase + 12
    | .other _ => hardMaxEvents
  | .dispatching =>
    let phase := if effect.preNegotiation then 1 else 0
    match effect.replayPolicy with
    | .safe | .idempotencyKey => 4 * effect.automaticLeft + 8 + phase
    | .never => 3 * effect.automaticLeft + 8 + phase
    | .confirm => effect.confirmationBase + 10 + phase
    | .other _ => hardMaxEvents
  | .dispatched | .streaming => effect.dispatchedEvents
  | .other _ => hardMaxEvents

def Effect.minimumRemainingEvents : Nat :=
  effect.reserveIn effect.state

end Reserve

/-- The counters that every accepted event moves. -/
def Effect.counted (effect : Effect) (eventBytes : Nat) : Effect :=
  { effect with
    eventCount := effect.eventCount + 1
    eventBytes := effect.eventBytes + eventBytes
    revision := effect.revision + 1 }

def Gateway.apply (gateway : Gateway) (effect : Effect) (event : Event) : Except Refusal Transition := do
  gateway.validateEffect effect
  refuseIf (event.expectedRevision ≠ effect.revision) concurrentTransition
  refuseIf (effect.revision = maxUint64 ∨ gateway.bounds.maxEvents ≤ effect.eventCount) eventLimit
  let eventBytes ← gateway.validateEvent effect event
  refuseIf (maxUint64 - effect.eventBytes < eventBytes) eventLimit
  let transition ← gateway.move effect event
  refuseIf (gateway.bounds.maxEvents <
    transition.effect.eventCount + 1 + transition.effect.minimumRemainingEvents) eventLimit
  return { transition with effect := transition.effect.counted eventBytes }

end Circulusd.Mcp
