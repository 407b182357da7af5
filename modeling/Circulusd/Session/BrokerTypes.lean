import Circulusd.Session.Records

/-
The permits, receipts and requests of the session broker.
-/

namespace Circulusd.Session

open Protocol

structure SessionBrokerAuthority where
  tenantId : String
  workspaceId : String
  sessionId : String
  actorSubjectId : String
  expectedAuthorizationGeneration : Nat
deriving DecidableEq

structure SessionBrokerBudget where
  maximumEvents : Nat
  maximumEphemeralBytes : Nat
  maximumWallClockMs : Nat
deriving DecidableEq

structure SessionBrokerPolicy where
  engineStepLimits : SessionBrokerBudget
  preparationTTLms : Nat
deriving DecidableEq

structure SessionBrokerEffectSnapshot where
  effectId : String
  invocationId : String
  requestDigest : Digest
  phase : EffectPhase
  dispatchAttempt : Nat
deriving DecidableEq

/-- A snapshot is a comparison value and carries no authority. -/
structure SessionBrokerSnapshot where
  turnId : String
  eventSequence : Nat
  checkpointDigest : Digest
  fence : SessionFence
  activeEffect : Option SessionBrokerEffectSnapshot
deriving DecidableEq

structure SessionBrokerEffectKey where
  turnId : String
  effectId : String
  invocationId : String
  requestDigest : Digest
deriving DecidableEq

structure SessionBrokerPublicError where
  code : Nat
  reason : String
  message : String
  retryable : Bool
  retryAfterMs : Nat
  metadata : List (String × String)
  requestId : Option String
deriving DecidableEq

structure SessionBrokerSettlementSnapshot where
  effect : SessionEffect
  settlement : StoredEffectSettlement
deriving DecidableEq

structure SessionBrokerScope where
  tenantId : String
  workspaceId : String
  userId : String
  sessionId : String
  turnId : String
deriving DecidableEq

structure SessionBrokerEngineGrant extends SessionBrokerScope where
  opaqueBytes : Bytes
  operationKey : String
  fence : SessionFence
  expectedEventSequence : Nat
  checkpointDigest : Digest
  budget : SessionBrokerBudget
  deadline : Nat
  checkpoint : StoredSessionCheckpoint
  unconsumedSettlement : Option SessionBrokerSettlementSnapshot
deriving DecidableEq

structure SessionBrokerPreparationPermit extends SessionBrokerScope, SessionBrokerEffectKey where
  opaqueBytes : Bytes
  service : EffectService
  operation : String
  parentOperationId : Option String
  ordinal : Nat
  replayPolicy : ReplayPolicy
  fence : SessionFence
  dispatchAttempt : Nat
  deadline : Nat
  eventSequence : Nat
deriving DecidableEq

structure SessionBrokerDispatchPermit extends SessionBrokerPreparationPermit where
  providerRequestId : Option String
  providerRouteDigest : Digest
deriving DecidableEq

structure SessionBrokerDispatchStartPermit where
  dispatch : SessionBrokerDispatchPermit
  opaqueBytes : Bytes
  commandDigest : Digest
  eventSequence : Nat
deriving DecidableEq

structure SessionBrokerDispatchStartClaim where
  fresh : Bool
  permit : SessionBrokerDispatchStartPermit
deriving DecidableEq

structure SessionBrokerStepReceipt where
  operationKey : String
  eventSequence : Nat
  preparedEffect : Option SessionEffect
  preparation : Option SessionBrokerPreparationPermit
deriving DecidableEq

structure SessionBrokerConfirmationReceipt extends SessionBrokerScope, SessionBrokerEffectKey where
  service : EffectService
  operation : String
  dispatchAttempt : Nat
  providerRequestId : Option String
  externalCommitId : String
  resultRef : Option String
  operationDigest : Digest
  eventSequence : Nat
deriving DecidableEq

inductive SessionBrokerRecoveryKind where
  | failed
  | interruptedUnknown
deriving DecidableEq

structure SessionBrokerSettlementReceipt extends SessionBrokerScope, SessionBrokerEffectKey where
  dispatchAttempt : Nat
  externalCommitId : Option String
  resultRef : Option String
  error : Option SessionBrokerPublicError
  operationDigest : Digest
  recoveryKind : Option SessionBrokerRecoveryKind
  effect : SessionEffect
  eventSequence : Nat
deriving DecidableEq

structure SessionBrokerBlockReceipt extends SessionBrokerScope, SessionBrokerEffectKey where
  replayPolicy : ReplayPolicy
  dispatchAttempt : Nat
  operationDigest : Digest
  reason : SessionBrokerPublicError
  eventSequence : Nat
deriving DecidableEq

inductive SessionBrokerReceiptKind where
  | acquire
  | commit
  | retry
  | claim
  | dispatch
  | confirmation
  | settlement
  | recoverySettlement
  | block
deriving DecidableEq

/-- The original result of a broker operation is stored behind its receipt. -/
inductive SessionBrokerReceiptValue where
  | engineGrant (grant : SessionBrokerEngineGrant)
  | step (receipt : SessionBrokerStepReceipt)
  | preparation (permit : SessionBrokerPreparationPermit)
  | dispatch (permit : SessionBrokerDispatchPermit)
  | startClaim (claim : SessionBrokerDispatchStartClaim)
  | confirmation (receipt : SessionBrokerConfirmationReceipt)
  | settlement (receipt : SessionBrokerSettlementReceipt)
  | block (receipt : SessionBrokerBlockReceipt)
deriving DecidableEq

structure SessionBrokerAcquire where
  snapshot : SessionBrokerSnapshot
  operationKey : String
  nowUnixMs : Nat
  budget : SessionBrokerBudget
deriving DecidableEq

structure SessionBrokerCommit where
  snapshot : SessionBrokerSnapshot
  operationKey : String
  requestDigest : Digest
  permitOpaque : Bytes
  nowUnixMs : Nat
  step : EngineStepResult
deriving DecidableEq

structure SessionBrokerEffectMutation where
  snapshot : SessionBrokerSnapshot
  operationKey : String
  key : SessionBrokerEffectKey
  operationDigest : Digest
deriving DecidableEq

structure SessionBrokerDispatch extends SessionBrokerEffectMutation where
  preparationOpaque : Bytes
  providerRequestId : Option String
  providerRouteDigest : Digest
  nowUnixMs : Nat
  deadlineUnixMs : Nat
deriving DecidableEq

structure SessionBrokerClaim where
  snapshot : SessionBrokerSnapshot
  key : SessionBrokerEffectKey
  dispatchOpaque : Bytes
  commandDigest : Digest
  nowUnixMs : Nat
deriving DecidableEq

structure SessionBrokerConfirm extends SessionBrokerEffectMutation where
  dispatchAttempt : Nat
  providerRequestId : Option String
  providerRouteDigest : Digest
  externalCommitId : String
  resultRef : Option String
deriving DecidableEq

structure SessionBrokerSettle extends SessionBrokerEffectMutation where
  dispatchAttempt : Nat
  externalCommitId : String
  resultRef : Option String
  error : Option SessionBrokerPublicError
  settlement : EffectSettlement
deriving DecidableEq

structure SessionBrokerBlock extends SessionBrokerEffectMutation where
  reason : SessionBrokerPublicError
deriving DecidableEq

structure SessionBrokerRetry extends SessionBrokerEffectMutation where
  nowUnixMs : Nat
  deadlineUnixMs : Nat
  userConfirmed : Bool
deriving DecidableEq

structure SessionBrokerRecoverySettlement extends SessionBrokerEffectMutation where
  kind : SessionBrokerRecoveryKind
  error : SessionBrokerPublicError
deriving DecidableEq

inductive SessionBrokerMutation where
  | acquireStep (body : SessionBrokerAcquire)
  | commitStep (body : SessionBrokerCommit)
  | dispatch (body : SessionBrokerDispatch)
  | claimStart (body : SessionBrokerClaim)
  | confirm (body : SessionBrokerConfirm)
  | settle (body : SessionBrokerSettle)
  | block (body : SessionBrokerBlock)
  | prepareRetry (body : SessionBrokerRetry)
  | settleRecovery (body : SessionBrokerRecoverySettlement)
deriving DecidableEq

def SessionBrokerMutation.snapshot : SessionBrokerMutation → SessionBrokerSnapshot
  | .acquireStep body => body.snapshot
  | .commitStep body => body.snapshot
  | .dispatch body => body.snapshot
  | .claimStart body => body.snapshot
  | .confirm body => body.snapshot
  | .settle body => body.snapshot
  | .block body => body.snapshot
  | .prepareRetry body => body.snapshot
  | .settleRecovery body => body.snapshot

/-- `kindForOperation` of the source. -/
def SessionBrokerMutation.kindForOperation : SessionBrokerMutation → SessionBrokerReceiptKind
  | .acquireStep _ => .acquire
  | .commitStep _ => .commit
  | .dispatch _ => .dispatch
  | .claimStart _ => .claim
  | .confirm _ => .confirmation
  | .settle _ => .settlement
  | .block _ => .block
  | .prepareRetry _ => .retry
  | .settleRecovery _ => .recoverySettlement

/-- The host mints this context once, outside transaction retries. -/
structure SessionBrokerHostContext where
  policy : SessionBrokerPolicy
  opaqueBytes : Bytes
  secondaryOpaque : Bytes
  effectId : String
  invocationId : String
deriving DecidableEq

structure SessionBrokerCommand where
  commandId : String
  expectedEventSequence : Nat
  operationKeyDigest : Digest
  operationKey : String
  authority : SessionBrokerAuthority
  host : SessionBrokerHostContext
  request : SessionBrokerMutation
deriving DecidableEq

structure SessionBrokerBlobReference where
  digest : Digest
  encodedBytes : Nat
deriving DecidableEq

structure SessionBrokerStoredReceipt where
  sequence : Nat
  kind : SessionBrokerReceiptKind
  operationKey : String
  operationKeyDigest : Digest
  operationDigest : Digest
  requestDigest : Digest
  resultPayloadRef : SessionPayloadRef
  referencedBlobs : List SessionBrokerBlobReference
deriving DecidableEq

structure SessionBrokerPreparation where
  permit : SessionBrokerPreparationPermit
  sourceEventSequence : Nat
  sourceDispatchAttempt : Nat
  sourceCheckpointDigest : Digest
  retry : Bool
deriving DecidableEq

structure SessionBrokerState where
  receiptSequence : Nat
  receiptsThrough : Nat
  receipts : List SessionBrokerStoredReceipt
  engineGrant : Option SessionBrokerEngineGrant
  preparation : Option SessionBrokerPreparation
  dispatch : Option SessionBrokerDispatchPermit
  start : Option SessionBrokerDispatchStartPermit
deriving DecidableEq

def emptyBroker : SessionBrokerState where
  receiptSequence := 0
  receiptsThrough := 0
  receipts := []
  engineGrant := none
  preparation := none
  dispatch := none
  start := none

def sessionBrokerHotReceipts : Nat := 32

end Circulusd.Session
