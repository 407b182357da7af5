import Circulusd.Mcp.RepositorySteps

/-
`Recover` settles the crash window of an attempt. It asks the repository twice and the ledger of the
provider once; after each answer it ends, hands over to a cancellation, applies one event and commits
the result, or asks on.
-/

namespace Circulusd.Mcp

open Checked Protocol GatewayError

inductive RecoveryAction where
  | wait
  | retry
  | settled
  | confirmation
  | interrupted
deriving DecidableEq

def recoveryAction (effect : Effect) : RecoveryAction :=
  match effect.state with
  | .retryPending => .retry
  | .needsConfirmation => .confirmation
  | .completed => .settled
  | _ => .interrupted

inductive RecoveryMove where
  | finish (action : RecoveryAction)
  /-- `Cancel` of the whole effect. -/
  | cancel
  | dispatchCancellation
  | apply (event : Event)
  | resolveStart
  | lookup
deriving DecidableEq

def Effect.notSent (effect : Effect) (reason : String) : Event :=
  { Event.plain effect.revision .dispatchFailed with failure := .definitelyNotSent, reason }

def Effect.observed (effect : Effect) (record : LedgerRecord) : Event :=
  { Event.plain effect.revision .recoveryObserved with ledger := record }

/-- `definitiveTerminal`. -/
def Effect.definitiveTerminal (effect : Effect) : Prop :=
  effect.state = .completed ∨ effect.state = .cancelled ∨
    effect.state = .failed ∧ ∀ attempt ∈ effect.currentAttempt, attempt.failure ≠ .unknown
deriving Decidable

/-- After `ReconcileServerRequests`. The nested effect that is reported as pending is cancelled with
its broker before anything else; `childCancelled` says whether that worked. -/
def Effect.recoverReconciled (effect : Effect) (reconciled : ServerRequestReconcileResult)
    (childCancelled : Bool) : Except Refusal RecoveryMove := do
  refuseIf (reconciled.durable = false ∨ reconciled.retryAfter < 0) storeUnavailable
  if reconciled.active then return .finish .wait
  else if reconciled.pendingCancellation ∧ ¬ childCancelled then return .finish .wait
  else if effect.definitiveTerminal then return .finish (recoveryAction effect)
  else if reconciled.parentCancelRequired then return .cancel
  else match effect.state with
    | .retryPending => return .finish .retry
    | .cancellationPending => return .dispatchCancellation
    | .externallyCommitted => return .apply (.plain effect.revision .settlementCompleted)
    | .dispatching =>
      if effect.latestAttempt.negotiation = .zero then
        return .apply (effect.notSent "provider negotiation was not durably recorded")
      else return .resolveStart
    | .dispatched | .streaming | .uncertain | .needsConfirmation | .failed => return .resolveStart
    | .admitted | .completed | .cancelled | .other _ => .error ↑invalidTransition

def ValidHistoricalProviderStartPermit (permit : ProviderStartPermit) (effect : Effect)
    (scope : ValidatedAuthority) : Prop :=
  ∃ attempt ∈ effect.currentAttempt, permit.durable = true ∧ permit.proof ≠ zeroDigest ∧
    sameOperationScope permit.scope scope ∧ sameOperationScope permit.scope effect.scope ∧
    permit.invocationId = effect.scope.invocationId ∧ permit.requestDigest = effect.requestDigest ∧
    permit.providerId = effect.providerId ∧ permit.attempt = attempt.attempt ∧
    permit.claimGeneration ≠ 0 ∧ permit.dispatch.effectRevision < permit.effectRevision ∧
    permit.effectRevision ≤ effect.revision ∧ permit.leaseExpiresAtUnixNano ≠ 0 ∧
    permit.negotiation = attempt.negotiation ∧
    permit.dispatch.invocationId = effect.scope.invocationId ∧
    permit.dispatch.requestDigest = effect.requestDigest ∧
    permit.dispatch.providerId = effect.providerId ∧ permit.dispatch.attempt = attempt.attempt
deriving Decidable

/-- After `ResolveProviderStart`. -/
def Effect.recoverResolved (effect : Effect) (scope : ValidatedAuthority)
    (resolution : StoredProviderStartResolution) : Except Refusal RecoveryMove := do
  refuseIf (resolution.durable = false ∨ resolution.retryAfter < 0) storeUnavailable
  if resolution.active then return .finish .wait
  else if resolution.present then
    refuseIf (¬ ValidHistoricalProviderStartPermit resolution.permit effect scope) dispatchNotDurable
    if effect.state = .needsConfirmation ∧ effect.supportsInvocationLedger = false then
      return .finish .confirmation
    else if effect.state = .uncertain ∧ effect.replayPolicy = .never ∧ effect.supportsInvocationLedger = false then
      return .finish .interrupted
    else return .lookup
  else
    refuseIf (effect.state ≠ .dispatching ∨ effect.latestAttempt.providerRequestId ≠ "") storeUnavailable
    return .apply (effect.notSent "provider start was durably prevented")

/-- After the ledger was read. Without a ledger the record is the one of an unknown outcome. -/
def Gateway.recoverObserved (gateway : Gateway) (effect : Effect) (record : LedgerRecord) :
    Except Refusal RecoveryMove := do
  refuseIf (¬ (gateway.ValidLedgerRecord record true ∧ record.invocationId = effect.scope.invocationId ∧
    record.requestDigest = effect.requestDigest)) ledgerMismatch
  if record.status = .inflight then
    let attempt ← require effect.currentAttempt ledgerMismatch
    refuseIf (attempt.providerRequestId ≠ "" ∧ attempt.providerRequestId ≠ record.providerRequestId) ledgerMismatch
    if attempt.providerRequestId ≠ "" ∧ effect.state ∈ [State.dispatched, State.streaming,
        State.cancellationPending, State.uncertain, State.needsConfirmation, State.failed] then
      return .finish .wait
    else return .apply (effect.observed record)
  else if record.status = .unknown ∧ effect.state = .needsConfirmation then return .finish .confirmation
  else if record.status = .absent ∧ effect.state = .needsConfirmation ∧
      effect.latestAttempt.failure = .ledgerAbsent then return .finish .confirmation
  else if record.status = .unknown ∧ (effect.state = .uncertain ∨ effect.state = .failed) then
    return .finish .interrupted
  else return .apply (effect.observed record)

/-- The events that `Recover` applies to an effect, after the calls that led there. The answer of an
earlier call may be old by now: the commit compares the whole effect. -/
inductive Gateway.Recovers (gateway : Gateway) (past : List Call) (effect : Effect) : Event → Prop where
  | reconciled {scope : ValidatedAuthority} {now : Int} {result : ServerRequestReconcileResult}
      {childCancelled : Bool} {event : Event}
      (asked : ⟨.reconcileServerRequests ⟨scope, effect⟩, now, .ok (.reconciliation result)⟩ ∈ past)
      (move : effect.recoverReconciled result childCancelled = .ok (.apply event)) :
      Gateway.Recovers gateway past effect event
  | resolved {scope : ValidatedAuthority} {now : Int} {resolution : StoredProviderStartResolution} {event : Event}
      (asked : ⟨.resolveProviderStart ⟨scope, effect⟩, now, .ok (.resolution resolution)⟩ ∈ past)
      (move : effect.recoverResolved scope resolution = .ok (.apply event)) :
      Gateway.Recovers gateway past effect event
  | observed {record : LedgerRecord} {event : Event}
      (move : gateway.recoverObserved effect record = .ok (.apply event)) :
      Gateway.Recovers gateway past effect event
  | settled (state : effect.state = .externallyCommitted) :
      Gateway.Recovers gateway past effect (.plain effect.revision .settlementCompleted)

variable {gateway : Gateway} {past : List Call} {effect : Effect} {event : Event}

theorem Effect.recoverReconciled_notSent {reconciled : ServerRequestReconcileResult} {childCancelled : Bool}
    (move : effect.recoverReconciled reconciled childCancelled = .ok (.apply event))
    (unsent : event.failure = .definitelyNotSent) :
    effect.state = .dispatching ∧ effect.latestAttempt.negotiation = .zero := by
  simp only [recoverReconciled, steps_ok] at move
  obtain ⟨-, move⟩ := move
  iterate 4
    split at move
    · simp at move
  cases state : effect.state with
  | dispatching =>
    simp only [state] at move
    split at move
    next absent => exact ⟨rfl, absent⟩
    next => simp at move
  | externallyCommitted =>
    simp only [state, pure_ok, RecoveryMove.apply.injEq] at move
    rw [← move] at unsent
    simp [Event.plain] at unsent
  | _ => simp [state] at move

theorem Effect.recoverResolved_apply {scope : ValidatedAuthority} {resolution : StoredProviderStartResolution}
    (move : effect.recoverResolved scope resolution = .ok (.apply event)) : resolution.present = false := by
  simp only [recoverResolved, steps_ok] at move
  obtain ⟨-, move⟩ := move
  split at move
  · simp at move
  split at move
  next present =>
    simp only [steps_ok] at move
    obtain ⟨-, move⟩ := move
    split at move
    · simp at move
    split at move <;> simp at move
  next absent => simpa using absent

theorem Gateway.recoverObserved_apply {record : LedgerRecord}
    (move : gateway.recoverObserved effect record = .ok (.apply event)) : event = effect.observed record := by
  simp only [recoverObserved, steps_ok] at move
  obtain ⟨-, move⟩ := move
  split at move
  · simp only [steps_ok] at move
    obtain ⟨attempt, -, -, move⟩ := move
    split at move
    · simp at move
    · exact (RecoveryMove.apply.inj ((pure_ok _ _).mp move)).symm
  iterate 3
    split at move
    · simp at move
  exact (RecoveryMove.apply.inj ((pure_ok _ _).mp move)).symm

/-- An attempt is classified as not sent for one of two reasons only: its negotiation was never
recorded, or its start was resolved as not present. -/
theorem Gateway.Recovers.notSent (recovers : gateway.Recovers past effect event)
    (unsent : event.failure = .definitelyNotSent) :
    effect.state = .dispatching ∧ effect.latestAttempt.negotiation = .zero ∨
      ∃ call ∈ past, call.startPrevented = some ⟨effect.key, effect.latestAttempt.attempt⟩ := by
  cases recovers with
  | reconciled _ move => exact .inl (effect.recoverReconciled_notSent move unsent)
  | resolved asked move =>
    have absent := effect.recoverResolved_apply move
    exact .inr ⟨_, asked, by simp [Call.startPrevented, absent]⟩
  | observed move =>
    rw [gateway.recoverObserved_apply move] at unsent
    simp [Effect.observed, Event.plain] at unsent
  | settled => simp [Event.plain] at unsent

end Circulusd.Mcp
