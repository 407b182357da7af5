import Circulusd.Session.Outcome

/-
The strings that the canonical scan of a session state visits.
Field names, digests and enumeration values are ASCII constants and are left out.
-/

namespace Circulusd.Session

open Protocol

def StoredPayload.texts : StoredPayload → List String
  | .inline value => value.texts
  | .reference _ => []

def checkpointTexts (checkpoint : CheckpointMetadata) : List String :=
  [checkpoint.sessionId, checkpoint.turnId]

def StoredSessionCheckpoint.texts (checkpoint : StoredSessionCheckpoint) : List String :=
  checkpointTexts checkpoint.metadata

def TurnRecord.texts (turn : TurnRecord) : List String :=
  turn.turnId :: turn.input.texts ++ turn.checkpoint.texts

def ActiveTurn.texts (turn : ActiveTurn) : List String :=
  turn.toTurnRecord.texts ++ turn.abortReason.toList ++ turn.activeEffectId.toList

def StoredAgentError.texts (error : StoredAgentError) : List String :=
  error.code :: error.message :: (error.details.map StoredPayload.texts).getD []

def TerminalResult.texts : TerminalResult → List String
  | .completed result => result.texts
  | .failed error => error.texts
  | .aborted => []

def TerminalTurn.texts (turn : TerminalTurn) : List String :=
  turn.turnId :: turn.input.texts ++ turn.finalCheckpoint.texts ++ turn.abortReason.toList ++ turn.result.texts

def StoredEffectSettlement.texts : StoredEffectSettlement → List String
  | .success result => result.texts
  | .error code message _ => [code, message]
  | .interruptedUnknown reason => [reason]
  | .abandoned reason => [reason]

def claimTexts (claim : EffectClaim) : List String :=
  [claim.tenantId, claim.userId, claim.sessionId, claim.turnId, claim.effectId,
    claim.invocationId, claim.operation] ++ claim.parentOperationId.toList

def EffectDispatchMetadata.texts (dispatch : EffectDispatchMetadata) : List String :=
  dispatch.providerRequestId.toList ++ (dispatch.start.map (fun start => start.providerRequestId.toList)).getD []

def SessionEffect.texts (effect : SessionEffect) : List String :=
  claimTexts effect.toEffectClaim ++ effect.requestPayload.texts ++
    (effect.lastDispatch.map EffectDispatchMetadata.texts).getD [] ++
    effect.externalCommitId.toList ++ effect.resultRef.toList ++
    (effect.settlement.map StoredEffectSettlement.texts).getD []

def SessionPublicEffectIdentity.texts (effect : SessionPublicEffectIdentity) : List String :=
  [effect.effectId, effect.invocationId, effect.operation]

def SessionPublicEventBody.texts : SessionPublicEventBody → List String
  | .turnAccepted _ => []
  | .effectPrepared _ effect => effect.texts
  | .toolExternallyCommitted effect externalCommitId resultRef =>
    effect.texts ++ externalCommitId :: resultRef.toList
  | .effectSettled _ effect _ => effect.texts
  | .turnNeedsConfirmation effect => effect.texts
  | .turnTerminal _ => []

def SessionPublicEvent.texts (event : SessionPublicEvent) : List String :=
  event.turnId :: event.body.texts

def StoredSessionCommandOutcome.texts : StoredSessionCommandOutcome → List String
  | .brokerResult receipt _ => [receipt.operationKey]
  | .brokerBoundary _ effectId => [effectId]
  | .turnEnqueued turnId _ _ => [turnId]
  | .engineStepCommitted turnId _ _ consumedEffectId preparedEffectId _ =>
    turnId :: consumedEffectId.toList ++ preparedEffectId.toList
  | .effectDispatched effectId claims => effectId :: claimTexts claims.toEffectClaim
  | .dispatchStartClaimed effectId _ startPermit =>
    effectId :: claimTexts startPermit.dispatchPermitClaims.toEffectClaim ++ startPermit.providerRequestId.toList
  | .externalCommitRecorded effectId externalCommitId => [effectId, externalCommitId]
  | .effectSettled effectId settlement => effectId :: settlement.texts
  | .effectRecoveredRetry effectId claims => effectId :: claimTexts claims.toEffectClaim
  | .effectRecoveredInterrupted effectId => [effectId]
  | .effectRecoveredBlocked effectId => [effectId]
  | .confirmationRetried effectId claims => effectId :: claimTexts claims.toEffectClaim
  | .confirmationAbandoned effectId => [effectId]
  | .abortRequested turnId _ => [turnId]
  | .abortFinalized turnId => [turnId]
  | .turnLeaseRotated turnId _ _ => [turnId]
  | .generationsRotated .. => []
  | .runtimeRevisionStaged .. => []
  | .runtimeCandidateDiscarded .. => []
  | .runtimeRevisionActivated .. => []
  | .runtimeRevisionRolledBack .. => []

def CommandReceipt.texts (receipt : CommandReceipt) : List String :=
  receipt.commandId :: receipt.outcome.texts

def SessionHistoryState.texts (history : SessionHistoryState) : List String :=
  history.latestSettledTurnAtTurnThrough.toList ++ history.publicEventAnchors.flatMap SessionPublicEvent.texts ++
    history.dispatchStartReceipts.flatMap CommandReceipt.texts

def SessionBrokerScope.texts (scope : SessionBrokerScope) : List String :=
  [scope.tenantId, scope.workspaceId, scope.userId, scope.sessionId, scope.turnId]

def SessionBrokerEngineGrant.texts (grant : SessionBrokerEngineGrant) : List String :=
  grant.toSessionBrokerScope.texts ++ grant.operationKey :: grant.checkpoint.texts ++ (grant.unconsumedSettlement.map
      (fun snapshot => snapshot.effect.texts ++ snapshot.settlement.texts)).getD []

def SessionBrokerPreparationPermit.texts (permit : SessionBrokerPreparationPermit) : List String :=
  permit.toSessionBrokerScope.texts ++
    [permit.effectId, permit.invocationId, permit.operation] ++ permit.parentOperationId.toList

def SessionBrokerDispatchPermit.texts (permit : SessionBrokerDispatchPermit) : List String :=
  permit.toSessionBrokerPreparationPermit.texts ++ permit.providerRequestId.toList

def SessionBrokerState.texts (broker : SessionBrokerState) : List String :=
  broker.receipts.map (·.operationKey) ++ (broker.engineGrant.map SessionBrokerEngineGrant.texts).getD [] ++
    (broker.preparation.map (·.permit.texts)).getD [] ++
    (broker.dispatch.map SessionBrokerDispatchPermit.texts).getD [] ++
    (broker.start.map (·.dispatch.texts)).getD []

def SessionAggregateState.texts (state : SessionAggregateState) : List String :=
  [state.sessionId, state.tenantId, state.userId, state.workspaceId] ++
    (state.activeTurn.map ActiveTurn.texts).getD [] ++
    state.queuedTurns.flatMap (·.toTurnRecord.texts) ++
    state.terminalTurns.flatMap TerminalTurn.texts ++
    state.knownTurnIds ++
    state.latestSettledTurn.toList ++
    state.effects.flatMap SessionEffect.texts ++
    state.commandReceipts.flatMap CommandReceipt.texts ++
    state.publicEvents.flatMap SessionPublicEvent.texts ++
    state.turnAdmissionReceipts.map (·.turnId) ++
    (state.history.map SessionHistoryState.texts).getD [] ++
    (state.broker.map SessionBrokerState.texts).getD []

end Circulusd.Session
