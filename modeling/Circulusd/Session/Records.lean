import Circulusd.Protocol.Types

/-
The records inside a session aggregate: payloads, turns, effects and public events.
-/

namespace Circulusd.Session

open Protocol

/-- A reference keeps the digest and the sizes of an externalized canonical value. -/
structure SessionPayloadRef where
  digest : Digest
  encodedBytes : Nat
  encodedItems : Nat
deriving DecidableEq

/-- Exactly one of the inline field and the reference field is present. -/
inductive StoredPayload where
  | inline (value : NormalizedValue)
  | reference (ref : SessionPayloadRef)
deriving DecidableEq

structure StoredAgentError where
  code : String
  message : String
  retryable : Bool
  details : Option StoredPayload
deriving DecidableEq

inductive StoredSessionCheckpoint where
  | inline (checkpoint : AgentCheckpoint)
  | external (checkpoint : ExternalizedAgentCheckpoint)
deriving DecidableEq

def StoredSessionCheckpoint.metadata : StoredSessionCheckpoint → CheckpointMetadata
  | .inline checkpoint => checkpoint.toCheckpointMetadata
  | .external checkpoint => checkpoint.toCheckpointMetadata

inductive SessionStatus where
  | created
  | starting
  | ready
  | running
  | interrupted
  | failed
  | closed
deriving DecidableEq

inductive EffectPhase where
  | prepared
  | dispatched
  | externallyCommitted
  | blocked
  | settled
deriving DecidableEq

structure SessionRuntimeConfiguration where
  runtimeRevisionDigest : Digest
  policySnapshotDigest : Digest
  engineKind : EngineKind
  adapterAbiVersion : Nat
  checkpointSchemaVersion : Nat
deriving DecidableEq

structure RuntimePointer where
  activeRevision : Digest
  candidateRevision : Option Digest
  previousRevision : Option Digest
  switchGeneration : Nat
deriving DecidableEq

/-- The fields shared by queued and active turns. -/
structure TurnRecord where
  turnId : String
  sequence : Nat
  input : StoredPayload
  inputDigest : Digest
  checkpoint : StoredSessionCheckpoint
  /-- The chain digest is computed while the payload bytes are present. -/
  checkpointChainDigest : Option Digest
  turnLeaseGeneration : Nat
  leaseExpiresAt : Nat
deriving DecidableEq

structure QueuedTurn extends TurnRecord
deriving DecidableEq

inductive ActiveTurnStatus where
  | active
  | needsConfirmation
deriving DecidableEq

structure ActiveTurn extends TurnRecord where
  status : ActiveTurnStatus
  abortRequested : Bool
  abortReason : Option String
  activeEffectId : Option String
deriving DecidableEq

inductive TerminalStatus where
  | completed
  | failed
  | aborted
deriving DecidableEq

/-- A terminal turn keeps its result, its error, or neither. -/
inductive TerminalResult where
  | completed (result : StoredPayload)
  | failed (error : StoredAgentError)
  | aborted
deriving DecidableEq

def TerminalResult.status : TerminalResult → TerminalStatus
  | .completed _ => .completed
  | .failed _ => .failed
  | .aborted => .aborted

structure TerminalTurn where
  turnId : String
  sequence : Nat
  input : StoredPayload
  inputDigest : Digest
  finalCheckpoint : StoredSessionCheckpoint
  turnLeaseGeneration : Nat
  leaseExpiresAt : Nat
  abortRequested : Bool
  abortReason : Option String
  result : TerminalResult
deriving DecidableEq

def TerminalTurn.status (turn : TerminalTurn) : TerminalStatus := turn.result.status

/-- The settlement kinds; a success carries its stored result. -/
inductive StoredEffectSettlement where
  | success (result : StoredPayload)
  | error (code message : String) (retryable : Bool)
  | interruptedUnknown (reason : String)
  | abandoned (reason : String)
deriving DecidableEq

inductive EffectSettlementKind where
  | success
  | error
  | interruptedUnknown
  | abandoned
deriving DecidableEq

def StoredEffectSettlement.kind : StoredEffectSettlement → EffectSettlementKind
  | .success _ => .success
  | .error .. => .error
  | .interruptedUnknown _ => .interruptedUnknown
  | .abandoned _ => .abandoned

/-- A command carries its settlement with the result inline. -/
inductive EffectSettlement where
  | success (result : NormalizedValue)
  | error (code message : String) (retryable : Bool)
  | interruptedUnknown (reason : String)
  | abandoned (reason : String)
deriving DecidableEq

def EffectSettlement.kind : EffectSettlement → EffectSettlementKind
  | .success _ => .success
  | .error .. => .error
  | .interruptedUnknown _ => .interruptedUnknown
  | .abandoned _ => .abandoned

/-- The inline form of a settlement is a stored settlement too. -/
def EffectSettlement.stored : EffectSettlement → StoredEffectSettlement
  | .success result => .success (.inline result)
  | .error code message retryable => .error code message retryable
  | .interruptedUnknown reason => .interruptedUnknown reason
  | .abandoned reason => .abandoned reason

structure EffectDispatchStartMetadata extends SessionFence where
  dispatchAttempt : Nat
  deadline : Nat
  providerRequestId : Option String
  providerRouteDigest : Digest
  commandDigest : Digest
  claimedEventSequence : Nat
deriving DecidableEq

structure EffectDispatchMetadata extends SessionFence where
  dispatchAttempt : Nat
  deadline : Nat
  providerRequestId : Option String
  providerRouteDigest : Digest
  start : Option EffectDispatchStartMetadata
deriving DecidableEq

structure DispatchStartPermitClaims where
  dispatchPermitClaims : DispatchPermitClaims
  providerRequestId : Option String
  commandDigest : Digest
  claimedEventSequence : Nat
deriving DecidableEq

structure SessionEffect extends EffectClaim where
  requestPayload : StoredPayload
  phase : EffectPhase
  dispatchAttempt : Nat
  lastDispatch : Option EffectDispatchMetadata
  externalCommitId : Option String
  resultRef : Option String
  settlement : Option StoredEffectSettlement
  consumedAtCheckpointSequence : Option Nat
  consumedByAbort : Bool
deriving DecidableEq

structure PublicTurnAdmission where
  tenantId : Option String
  actorSubjectId : Option String
  authorizationGeneration : Nat
  idempotencyKeyDigest : Digest
  requestDigest : Digest
deriving DecidableEq

structure TurnAdmissionReceipt where
  idempotencyKeyDigest : Digest
  requestDigest : Digest
  inputDigest : Digest
  turnId : String
  turnSequence : Nat
  activated : Bool
  publicEventSequence : Nat
deriving DecidableEq

/-- Model effects and tool effects have events of their own. -/
inductive EffectEventClass where
  | model
  | tool
deriving DecidableEq

structure SessionPublicEffectIdentity where
  effectId : String
  invocationId : String
  service : EffectService
  operation : String
deriving DecidableEq

inductive SessionPublicEventBody where
  | turnAccepted (activated : Bool)
  | effectPrepared (eventClass : EffectEventClass) (effect : SessionPublicEffectIdentity)
  | toolExternallyCommitted (effect : SessionPublicEffectIdentity)
      (externalCommitId : String) (resultRef : Option String)
  | effectSettled (eventClass : EffectEventClass) (effect : SessionPublicEffectIdentity)
      (settlementKind : EffectSettlementKind)
  | turnNeedsConfirmation (effect : SessionPublicEffectIdentity)
  | turnTerminal (status : TerminalStatus)
deriving DecidableEq

/-- The `type` texts of the public events. -/
inductive SessionPublicEventType where
  | turnAccepted
  | effectPrepared (eventClass : EffectEventClass)
  | toolExternallyCommitted
  | effectSettled (eventClass : EffectEventClass)
  | turnNeedsConfirmation
  | turnTerminal (status : TerminalStatus)
deriving DecidableEq

def SessionPublicEventBody.type : SessionPublicEventBody → SessionPublicEventType
  | .turnAccepted _ => .turnAccepted
  | .effectPrepared eventClass _ => .effectPrepared eventClass
  | .toolExternallyCommitted .. => .toolExternallyCommitted
  | .effectSettled eventClass _ _ => .effectSettled eventClass
  | .turnNeedsConfirmation _ => .turnNeedsConfirmation
  | .turnTerminal status => .turnTerminal status

def SessionPublicEventBody.effect? : SessionPublicEventBody → Option SessionPublicEffectIdentity
  | .effectPrepared _ effect => some effect
  | .toolExternallyCommitted effect _ _ => some effect
  | .effectSettled _ effect _ => some effect
  | .turnNeedsConfirmation effect => some effect
  | _ => none

structure SessionPublicEvent where
  sequence : Nat
  turnId : String
  turnSequence : Nat
  body : SessionPublicEventBody
deriving DecidableEq

/-- An event is keyed by its type and its effect, or its turn when it has no effect. -/
def SessionPublicEvent.key (event : SessionPublicEvent) : SessionPublicEventType × String :=
  (event.body.type, (event.body.effect?.map (·.effectId)).getD event.turnId)

end Circulusd.Session
