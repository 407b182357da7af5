import Circulusd.Session.BrokerTypes

/-
The session aggregate, its archived history and its commands.
-/

namespace Circulusd.Session

open Protocol

inductive SessionBrokerBoundary where
  | retry
  | block
  | recoverySettlement
deriving DecidableEq

inductive CommittedTurnStatus where
  | active
  | completed
  | failed
deriving DecidableEq

inductive AbortedTurnStatus where
  | active
  | needsConfirmation
  | aborted
deriving DecidableEq

inductive ConfirmationDecision where
  | retry
  | abandon
deriving DecidableEq

/-- The outcome that a command receipt stores and a replay returns. -/
inductive StoredSessionCommandOutcome where
  | brokerResult (receipt : SessionBrokerStoredReceipt) (replayedClaim : Bool)
  | brokerBoundary (operation : SessionBrokerBoundary) (effectId : String)
  | turnEnqueued (turnId : String) (turnSequence : Nat) (activated : Bool)
  | engineStepCommitted (turnId : String) (boundaryKind : EngineStepKind)
      (checkpointSequence : Nat) (consumedEffectId preparedEffectId : Option String)
      (status : CommittedTurnStatus)
  | effectDispatched (effectId : String) (dispatchPermitClaims : DispatchPermitClaims)
  | dispatchStartClaimed (effectId : String) (fresh : Bool) (startPermit : DispatchStartPermitClaims)
  | externalCommitRecorded (effectId externalCommitId : String)
  | effectSettled (effectId : String) (settlement : StoredEffectSettlement)
  /-- Only a recovery that authorizes a new attempt carries a permit. -/
  | effectRecoveredRetry (effectId : String) (dispatchPermitClaims : DispatchPermitClaims)
  | effectRecoveredInterrupted (effectId : String)
  | effectRecoveredBlocked (effectId : String)
  | confirmationRetried (effectId : String) (dispatchPermitClaims : DispatchPermitClaims)
  | confirmationAbandoned (effectId : String)
  | abortRequested (turnId : String) (status : AbortedTurnStatus)
  | abortFinalized (turnId : String)
  | turnLeaseRotated (turnId : String) (turnLeaseGeneration leaseExpiresAt : Nat)
  | generationsRotated (placementGeneration sandboxGeneration authorizationGeneration : Nat)
      (emergencyOverlayDigest : Digest)
  | runtimeRevisionStaged (activeRevision candidateRevision : Digest) (switchGeneration : Nat)
  | runtimeCandidateDiscarded (activeRevision candidateRevision : Digest)
      (switchGeneration : Nat) (failureReceiptDigest : Digest)
  | runtimeRevisionActivated (activeRevision previousRevision : Digest)
      (switchGeneration : Nat) (healthReceiptDigest migrationReceiptDigest : Digest)
  | runtimeRevisionRolledBack (activeRevision previousRevision : Digest)
      (switchGeneration : Nat) (failureReceiptDigest : Digest)
deriving DecidableEq

structure CommandReceipt where
  commandId : String
  commandDigest : Digest
  committedEventSequence : Nat
  outcome : StoredSessionCommandOutcome
deriving DecidableEq

structure SessionTurnIdentity where
  turnId : String
  turnSequence : Nat
deriving DecidableEq

structure SessionInvocationIdentity where
  invocationId : String
  effectId : String
deriving DecidableEq

/-- The watermarks and anchors that stand for the archived prefix. -/
structure SessionHistoryState where
  commandThrough : Nat
  publicEventThrough : Nat
  turnThrough : Nat
  runtimePointerAtCommandThrough : RuntimePointer
  latestSettledTurnAtTurnThrough : Option String
  publicEventAnchors : List SessionPublicEvent
  dispatchStartReceipts : List CommandReceipt
  runtimeRevisionDigests : List Digest
deriving DecidableEq

structure SessionAggregateState extends SessionRuntimeConfiguration where
  sessionId : String
  tenantId : String
  userId : String
  workspaceId : String
  runtimePointer : RuntimePointer
  status : SessionStatus
  eventSequence : Nat
  publicEventSequence : Nat
  nextTurnSequence : Nat
  activeTurn : Option ActiveTurn
  queuedTurns : List QueuedTurn
  terminalTurns : List TerminalTurn
  knownTurnIds : List String
  latestSettledTurn : Option String
  effects : List SessionEffect
  placementGeneration : Nat
  sandboxGeneration : Nat
  authorizationGeneration : Nat
  emergencyOverlayDigest : Digest
  commandReceipts : List CommandReceipt
  publicEvents : List SessionPublicEvent
  turnAdmissionReceipts : List TurnAdmissionReceipt
  history : Option SessionHistoryState
  broker : Option SessionBrokerState
deriving DecidableEq

structure CreateSessionStateInput extends SessionRuntimeConfiguration where
  sessionId : String
  tenantId : String
  userId : String
  workspaceId : String
  placementGeneration : Nat
  sandboxGeneration : Nat
  authorizationGeneration : Nat
  emergencyOverlayDigest : Digest
deriving DecidableEq

structure SessionArchiveDelta where
  commandReceipts : List CommandReceipt
  publicEvents : List SessionPublicEvent
  terminalTurns : List TerminalTurn
  effects : List SessionEffect
  turnAdmissionReceipts : List TurnAdmissionReceipt
  turnIdentities : List SessionTurnIdentity
  brokerReceipts : List SessionBrokerStoredReceipt
deriving DecidableEq

structure SessionBrokerOperationKey where
  kind : SessionBrokerReceiptKind
  operationKey : String
  operationKeyDigest : Digest
deriving DecidableEq

/-- Each answered lookup keeps its key and the archived record, if there is one. -/
structure SessionHistoryWitness where
  command : Option (String × Option CommandReceipt)
  admission : Option (Digest × Option TurnAdmissionReceipt)
  turn : Option (String × Option SessionTurnIdentity)
  effect : Option (String × Option SessionEffect)
  invocation : Option (String × Option SessionInvocationIdentity)
  issuingReceipt : Option (Nat × Option CommandReceipt)
  brokerOperation : Option (SessionBrokerOperationKey × Option SessionBrokerStoredReceipt)
deriving DecidableEq

structure SessionApplyContext where
  transactionTime : Nat
  history : Option SessionHistoryWitness
  historyMaxRecords : Option Nat
deriving DecidableEq

structure SessionCommandBase where
  commandId : String
  expectedEventSequence : Nat
deriving DecidableEq

structure ActiveTurnCommandBase extends SessionCommandBase where
  turnId : String
  fence : SessionFence
deriving DecidableEq

structure EffectCommandBase extends ActiveTurnCommandBase where
  effectId : String
  invocationId : String
  requestDigest : Digest
deriving DecidableEq

structure EnqueueTurnCommand extends SessionCommandBase where
  transactionTime : Nat
  turnId : String
  input : NormalizedValue
  inputDigest : Digest
  genesisCheckpoint : AgentCheckpoint
  turnLeaseGeneration : Nat
  leaseExpiresAt : Nat
  publicAdmission : Option PublicTurnAdmission
deriving DecidableEq

structure EffectIdentity where
  effectId : String
  invocationId : String
deriving DecidableEq

structure CommitEngineStepCommand extends ActiveTurnCommandBase where
  transactionTime : Nat
  consumedSettlementEffectId : Option String
  effectIdentity : Option EffectIdentity
  step : EngineStepResult
deriving DecidableEq

structure DispatchEffectCommand extends EffectCommandBase where
  transactionTime : Nat
  deadline : Nat
  providerRequestId : Option String
  providerRouteDigest : Digest
deriving DecidableEq

structure ClaimDispatchStartCommand extends EffectCommandBase where
  workspaceId : String
  transactionTime : Nat
  dispatchAttempt : Nat
  providerRequestId : Option String
  providerRouteDigest : Digest
  dispatchPermitClaims : DispatchPermitClaims
  commandDigest : Digest
deriving DecidableEq

structure RecordExternalCommitCommand extends EffectCommandBase where
  dispatchAttempt : Nat
  externalCommitId : String
  resultRef : Option String
deriving DecidableEq

structure SettleEffectCommand extends EffectCommandBase where
  dispatchAttempt : Option Nat
  settlement : EffectSettlement
deriving DecidableEq

structure RecoverEffectCommand extends EffectCommandBase where
  transactionTime : Nat
  deadline : Nat
  providerRequestId : Option String
  providerRouteDigest : Option Digest
deriving DecidableEq

/-- A retry has all four fields and an abandonment has none of them. -/
structure ResolveConfirmationCommand extends EffectCommandBase where
  decision : ConfirmationDecision
  transactionTime : Option Nat
  deadline : Option Nat
  providerRequestId : Option String
  providerRouteDigest : Option Digest
deriving DecidableEq

structure RequestAbortCommand extends ActiveTurnCommandBase where
  transactionTime : Nat
  reason : String
deriving DecidableEq

structure FinalizeAbortCommand extends ActiveTurnCommandBase where
  transactionTime : Nat
deriving DecidableEq

structure RotateTurnLeaseCommand extends ActiveTurnCommandBase where
  transactionTime : Nat
  nextTurnLeaseGeneration : Nat
  nextLeaseExpiresAt : Nat
deriving DecidableEq

structure RotateGenerationsCommand extends SessionCommandBase where
  nextPlacementGeneration : Nat
  nextSandboxGeneration : Nat
  nextAuthorizationGeneration : Nat
  nextEmergencyOverlayDigest : Digest
deriving DecidableEq

structure StageRuntimeRevisionCommand extends SessionCommandBase where
  candidateRevision : Digest
deriving DecidableEq

structure DiscardRuntimeCandidateCommand extends SessionCommandBase where
  expectedCandidateRevision : Digest
  failureReceiptDigest : Digest
deriving DecidableEq

structure ActivateRuntimeRevisionCommand extends SessionCommandBase where
  expectedActiveRevision : Digest
  expectedCandidateRevision : Digest
  expectedSwitchGeneration : Nat
  healthReceiptDigest : Digest
  migrationReceiptDigest : Digest
deriving DecidableEq

structure RollbackRuntimeRevisionCommand extends SessionCommandBase where
  expectedActiveRevision : Digest
  expectedPreviousRevision : Digest
  expectedSwitchGeneration : Nat
  failureReceiptDigest : Digest
deriving DecidableEq

inductive CoreCommand where
  | enqueueTurn (command : EnqueueTurnCommand)
  | commitEngineStep (command : CommitEngineStepCommand)
  | dispatchEffect (command : DispatchEffectCommand)
  | claimDispatchStart (command : ClaimDispatchStartCommand)
  | recordExternalCommit (command : RecordExternalCommitCommand)
  | settleEffect (command : SettleEffectCommand)
  | recoverEffect (command : RecoverEffectCommand)
  | resolveConfirmation (command : ResolveConfirmationCommand)
  | requestAbort (command : RequestAbortCommand)
  | finalizeAbort (command : FinalizeAbortCommand)
  | rotateTurnLease (command : RotateTurnLeaseCommand)
  | rotateGenerations (command : RotateGenerationsCommand)
  | stageRuntimeRevision (command : StageRuntimeRevisionCommand)
  | discardRuntimeCandidate (command : DiscardRuntimeCandidateCommand)
  | activateRuntimeRevision (command : ActivateRuntimeRevisionCommand)
  | rollbackRuntimeRevision (command : RollbackRuntimeRevisionCommand)
deriving DecidableEq

inductive SessionCommand where
  | broker (command : SessionBrokerCommand)
  | core (command : CoreCommand)
deriving DecidableEq

/-- Every core command has an identity and an expected event sequence. -/
def CoreCommand.base : CoreCommand → SessionCommandBase
  | .enqueueTurn command => command.toSessionCommandBase
  | .commitEngineStep command => command.toSessionCommandBase
  | .dispatchEffect command => command.toSessionCommandBase
  | .claimDispatchStart command => command.toSessionCommandBase
  | .recordExternalCommit command => command.toSessionCommandBase
  | .settleEffect command => command.toSessionCommandBase
  | .recoverEffect command => command.toSessionCommandBase
  | .resolveConfirmation command => command.toSessionCommandBase
  | .requestAbort command => command.toSessionCommandBase
  | .finalizeAbort command => command.toSessionCommandBase
  | .rotateTurnLease command => command.toSessionCommandBase
  | .rotateGenerations command => command.toSessionCommandBase
  | .stageRuntimeRevision command => command.toSessionCommandBase
  | .discardRuntimeCandidate command => command.toSessionCommandBase
  | .activateRuntimeRevision command => command.toSessionCommandBase
  | .rollbackRuntimeRevision command => command.toSessionCommandBase

def CoreCommand.commandId (command : CoreCommand) : String := command.base.commandId

def CoreCommand.expectedEventSequence (command : CoreCommand) : Nat :=
  command.base.expectedEventSequence

/-- The commands of an active turn carry its identity and a fence. -/
def CoreCommand.activeTurnBase? : CoreCommand → Option ActiveTurnCommandBase
  | .commitEngineStep command => some command.toActiveTurnCommandBase
  | .dispatchEffect command => some command.toActiveTurnCommandBase
  | .claimDispatchStart command => some command.toActiveTurnCommandBase
  | .recordExternalCommit command => some command.toActiveTurnCommandBase
  | .settleEffect command => some command.toActiveTurnCommandBase
  | .recoverEffect command => some command.toActiveTurnCommandBase
  | .resolveConfirmation command => some command.toActiveTurnCommandBase
  | .requestAbort command => some command.toActiveTurnCommandBase
  | .finalizeAbort command => some command.toActiveTurnCommandBase
  | .rotateTurnLease command => some command.toActiveTurnCommandBase
  | _ => none

/-- The bytes that a command introduces, keyed by content digest. -/
abbrev BlobMap := List (Digest × Bytes)

/-- A replay persists nothing, so it returns no payload effects. -/
structure ApplySessionCommandResult where
  state : SessionAggregateState
  outcome : StoredSessionCommandOutcome
  commandDigest : Digest
  replayed : Bool
  blobs : Option BlobMap
  referencedBlobs : Option (List Digest)
  archiveDelta : Option SessionArchiveDelta
deriving DecidableEq

def sessionHistoryHotCommands : Nat := 32
def sessionHistoryHotPublicEvents : Nat := 32
def sessionHistoryHotTerminalTurns : Nat := 8
def sessionHistoryHotEffects : Nat := 8
def sessionHistoryMaxRecords : Nat := 16
def sessionValueMaxEncodedBytes : Nat := 1048576
def sessionCommandMaxEncodedBytes : Nat := 8 * 1048576
def sessionStateMaxEncodedBytes : Nat := 3 * 1048576
def sessionStateMaxEncodedItems : Nat := 99936
def sessionCapacityReserveUnitBytes : Nat := 16 * 1024
def sessionCapacityReserveUnitItems : Nat := 1024
def checkpointPayloadMaxBytes : Nat := 4 * 1048576

end Circulusd.Session
