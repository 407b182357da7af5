import Circulusd.Library.Journal
import Circulusd.Session.Texts

/-
The broker part of a session state: its permits, its receipts and their checks.
-/

namespace Circulusd.Session

open Checked Protocol

variable (codec : Codec) (state : SessionAggregateState)

def effectById (effectId : String) : Option SessionEffect :=
  state.effects.find? (·.effectId = effectId)

/-- The current fence of the session and its active turn. -/
def fence : SessionFence where
  turnLeaseGeneration := (state.activeTurn.map (·.turnLeaseGeneration)).getD 0
  placementGeneration := state.placementGeneration
  sandboxGeneration := state.sandboxGeneration
  authorizationGeneration := state.authorizationGeneration

def activeEffect : Option SessionEffect := do
  let turn ← state.activeTurn
  let effectId ← turn.activeEffectId
  effectById state effectId

def effectKey (effect : EffectClaim) : SessionBrokerEffectKey where
  turnId := effect.turnId
  effectId := effect.effectId
  invocationId := effect.invocationId
  requestDigest := effect.requestDigest

def brokerIdentifier (value field : String) : Checked Unit :=
  sessionErrorIf (¬ codec.IsIdentifier value) .invalidArgument (field ++ " must be a canonical bounded identifier")

def brokerOptionalIdentifier (value : Option String) (field : String) : Checked Unit :=
  match value with
  | none => .ok ()
  | some present => brokerIdentifier codec present field

def brokerInteger (value : Nat) (field : String) (minimum : Nat) : Checked Unit :=
  sessionErrorIf (¬ IsSafeInteger minimum value) .invalidArgument (field ++ " must be a bounded integral value")

def brokerOpaque (value : Bytes) (field : String) : Checked Unit :=
  sessionErrorIf (value.length ≠ 32) .invalidArgument (field ++ " must contain exactly 32 opaque bytes")

def brokerFence (value : SessionFence) : Checked Unit := do
  brokerInteger value.turnLeaseGeneration "turnLeaseGeneration" 0
  brokerInteger value.placementGeneration "placementGeneration" 0
  brokerInteger value.sandboxGeneration "sandboxGeneration" 0
  brokerInteger value.authorizationGeneration "authorizationGeneration" 0

def brokerBlobMaxBytes : Nat := 4 * 1048576

def assertSessionBrokerReceipt (receipt : SessionBrokerStoredReceipt) : Checked Unit := do
  brokerInteger receipt.sequence "receipt.sequence" 1
  brokerIdentifier codec receipt.operationKey "receipt.operationKey"
  validateSessionPayloadRef receipt.resultPayloadRef "broker receipt result"
  sessionErrorIf (8 < receipt.referencedBlobs.length) .failedPrecondition
    "broker receipt payload references exceed their bound"
  forEach (fun reference : SessionBrokerBlobReference => do
    brokerInteger reference.encodedBytes "encodedBytes" 1
    sessionErrorIf (brokerBlobMaxBytes < reference.encodedBytes) .failedPrecondition
      "broker payload reference exceeds blob limit") receipt.referencedBlobs

def assertPermit (permit : SessionBrokerPreparationPermit) : Checked Unit := do
  brokerIdentifier codec permit.tenantId "permit.tenantId"
  brokerIdentifier codec permit.workspaceId "permit.workspaceId"
  brokerIdentifier codec permit.userId "permit.userId"
  brokerIdentifier codec permit.sessionId "permit.sessionId"
  brokerIdentifier codec permit.turnId "permit.turnId"
  brokerIdentifier codec permit.effectId "permit.effectId"
  brokerIdentifier codec permit.invocationId "permit.invocationId"
  brokerIdentifier codec permit.operation "permit.operation"
  brokerOptionalIdentifier codec permit.parentOperationId "parentOperationId"
  brokerInteger permit.ordinal "ordinal" 0
  brokerInteger permit.dispatchAttempt "dispatchAttempt" 1
  brokerInteger permit.deadline "deadline" 1
  brokerInteger permit.eventSequence "eventSequence" 1
  brokerOpaque permit.opaqueBytes "permit opaque"
  brokerFence permit.fence

def assertDispatchPermit (permit : SessionBrokerDispatchPermit) : Checked Unit := do
  assertPermit codec permit.toSessionBrokerPreparationPermit
  brokerOptionalIdentifier codec permit.providerRequestId "providerRequestId"

/-- Receipts are contiguous after the archived prefix and unique by kind and key. -/
def assertBrokerReceipts (broker : SessionBrokerState) : Checked Unit := do
  brokerInteger broker.receiptSequence "broker.receiptSequence" 0
  brokerInteger broker.receiptsThrough "broker.receiptsThrough" 0
  sessionErrorIf (broker.receiptSequence ≠ broker.receiptsThrough + broker.receipts.length ∨
      (0 < broker.receiptsThrough ∧ state.history = none))
    .failedPrecondition "broker receipt archive watermark is invalid"
  forEachPrior (fun prior receipt => do
    assertSessionBrokerReceipt codec receipt
    sessionErrorIf ((∃ earlier ∈ prior, earlier.kind = receipt.kind ∧
          earlier.operationKeyDigest = receipt.operationKeyDigest) ∨
        receipt.sequence ≠ broker.receiptsThrough + prior.length + 1)
      .failedPrecondition "broker receipts must be unique and contiguous") broker.receipts

def parseStoredCheckpoint : StoredSessionCheckpoint → Checked Unit
  | .inline checkpoint => parseAgentCheckpoint codec checkpoint
  | .external checkpoint => parseExternalizedAgentCheckpoint codec checkpoint

/-- Only a durable checkpoint can be compared with the grant as a whole. -/
def GrantCheckpointMatches (granted : StoredSessionCheckpoint) : StoredSessionCheckpoint → Prop
  | .external checkpoint => granted = .external checkpoint
  | .inline _ => True

instance (granted : StoredSessionCheckpoint) :
    (current : StoredSessionCheckpoint) → Decidable (GrantCheckpointMatches granted current)
  | .external checkpoint => inferInstanceAs (Decidable (granted = .external checkpoint))
  | .inline _ => .isTrue trivial

/-- The current checkpoint of the active turn is the one that the grant names. -/
def GrantCheckpointCurrent (grant : SessionBrokerEngineGrant) : Prop :=
  ∃ turn ∈ state.activeTurn, grant.checkpoint.metadata.sessionId = state.sessionId ∧
      grant.checkpoint.metadata.turnId = grant.turnId ∧
      GrantCheckpointMatches grant.checkpoint turn.checkpoint ∧
      (∀ chain ∈ turn.checkpointChainDigest, grant.checkpointDigest = chain)
deriving Decidable

/-- A grant carries the settlement of a settled active effect and nothing otherwise. -/
def GrantSettlementCurrent : Option SessionBrokerSettlementSnapshot → Prop
  | some snapshot => ∃ current ∈ activeEffect state, current.phase = .settled ∧
      snapshot.effect.effectId = current.effectId ∧ snapshot.effect.settlement = some snapshot.settlement
  | none => ∀ current ∈ activeEffect state, current.phase ≠ .settled

instance (state : SessionAggregateState) :
    (snapshot : Option SessionBrokerSettlementSnapshot) → Decidable (GrantSettlementCurrent state snapshot)
  | some _ => inferInstanceAs (Decidable (∃ current ∈ activeEffect state, _))
  | none => inferInstanceAs (Decidable (∀ current ∈ activeEffect state, _))

/-- The grant belongs to the current turn, event sequence and fence. -/
@[mk_iff]
structure GrantBound (state : SessionAggregateState) (grant : SessionBrokerEngineGrant) : Prop where
  tenantId : grant.tenantId = state.tenantId
  workspaceId : grant.workspaceId = state.workspaceId
  userId : grant.userId = state.userId
  sessionId : grant.sessionId = state.sessionId
  turnId : some grant.turnId = state.activeTurn.map (·.turnId)
  expectedEventSequence : grant.expectedEventSequence = state.eventSequence
  fence : grant.fence = fence state

instance (state : SessionAggregateState) (grant : SessionBrokerEngineGrant) : Decidable (GrantBound state grant) :=
  decidable_of_iff _ (grantBound_iff state grant).symm

def assertEngineGrant (grant : SessionBrokerEngineGrant) : Checked Unit := do
  brokerIdentifier codec grant.operationKey "grant.operationKey"
  brokerInteger grant.deadline "grant.deadline" 1
  brokerInteger grant.expectedEventSequence "grant.expectedEventSequence" 0
  brokerInteger grant.budget.maximumEphemeralBytes "maximumEphemeralBytes" 1
  brokerInteger grant.budget.maximumWallClockMs "maximumWallClockMs" 1
  sessionErrorIf (grant.budget.maximumEvents ≠ 1) .failedPrecondition "engine grant must authorize one boundary"
  parseStoredCheckpoint codec grant.checkpoint
  sessionErrorIf (¬ GrantCheckpointCurrent state grant) .failedPrecondition "engine grant checkpoint is not current"
  sessionErrorIf (¬ GrantSettlementCurrent state grant.unconsumedSettlement) .failedPrecondition
    (if grant.unconsumedSettlement = none then "engine grant omitted its unconsumed settlement"
      else "engine grant settlement is not the unconsumed effect")
  brokerOpaque grant.opaqueBytes "grant opaque"
  brokerFence grant.fence
  sessionErrorIf (¬ GrantBound state grant) .failedPrecondition "active engine grant does not bind the current Session"

/-- An effect permit repeats the identity of the active effect. -/
@[mk_iff]
structure PermitBound (state : SessionAggregateState) (effect : SessionEffect)
    (permit : SessionBrokerPreparationPermit) : Prop where
  key : permit.toSessionBrokerEffectKey = effectKey effect.toEffectClaim
  tenantId : permit.tenantId = state.tenantId
  workspaceId : permit.workspaceId = state.workspaceId
  userId : permit.userId = state.userId
  sessionId : permit.sessionId = state.sessionId
  service : permit.service = effect.service
  operation : permit.operation = effect.operation
  replayPolicy : permit.replayPolicy = effect.replayPolicy
  parentOperationId : permit.parentOperationId = effect.parentOperationId
  ordinal : permit.ordinal = effect.ordinal.getD 0

instance (state : SessionAggregateState) (effect : SessionEffect)
    (permit : SessionBrokerPreparationPermit) : Decidable (PermitBound state effect permit) :=
  decidable_of_iff _ (permitBound_iff state effect permit).symm

def assertPermitBound (permit : SessionBrokerPreparationPermit) : Checked Unit := do
  brokerOpaque permit.opaqueBytes "effect permit opaque"
  brokerFence permit.fence
  sessionErrorIf (¬ ∃ effect ∈ activeEffect state, PermitBound state effect permit) .failedPrecondition
    "broker effect permit is not bound to its effect"

/-- A preparation reserves the attempt after the current one. -/
@[mk_iff]
structure PreparationConsistent (state : SessionAggregateState) (effect : SessionEffect)
    (preparation : SessionBrokerPreparation) : Prop where
  next : preparation.permit.dispatchAttempt = effect.dispatchAttempt + 1
  source : preparation.sourceDispatchAttempt = effect.dispatchAttempt
  eventSequence : preparation.permit.eventSequence ≤ state.eventSequence
  retry : preparation.retry = true → preparation.permit.eventSequence = preparation.sourceEventSequence + 1
  initial : preparation.retry = false → effect.phase = .prepared

instance (state : SessionAggregateState) (effect : SessionEffect)
    (preparation : SessionBrokerPreparation) : Decidable (PreparationConsistent state effect preparation) :=
  decidable_of_iff _ (preparationConsistent_iff state effect preparation).symm

/-- A check of an optional record does nothing when the record is absent. -/
def whenPresent {α : Type} (value : Option α) (check : α → Checked Unit) : Checked Unit :=
  match value with
  | none => .ok ()
  | some present => check present

def assertPreparation (preparation : SessionBrokerPreparation) : Checked Unit := do
  brokerInteger preparation.sourceEventSequence "sourceEventSequence" 0
  brokerInteger preparation.sourceDispatchAttempt "sourceDispatchAttempt" 0
  sessionErrorIf (¬ ∃ effect ∈ activeEffect state, PreparationConsistent state effect preparation)
    .failedPrecondition "effect preparation reservation is inconsistent"

/-- The start permit repeats the dispatch permit and the durable claim of the effect. -/
def StartConsistent (broker : SessionBrokerState) (start : SessionBrokerDispatchStartPermit) : Prop :=
  broker.dispatch = some start.dispatch ∧
    ∃ effect ∈ activeEffect state, ∃ dispatch ∈ effect.lastDispatch, ∃ claim ∈ dispatch.start,
      start.eventSequence = claim.claimedEventSequence
deriving Decidable

def assertStartPermit (start : SessionBrokerDispatchStartPermit) : Checked Unit := do
  assertDispatchPermit codec start.dispatch
  brokerOpaque start.opaqueBytes "start opaque"
  brokerInteger start.eventSequence "start.eventSequence" 1

def assertBrokerPermits (broker : SessionBrokerState) : Checked Unit := do
  whenPresent broker.preparation (fun preparation => assertPermit codec preparation.permit)
  whenPresent broker.dispatch (assertDispatchPermit codec)
  whenPresent broker.start (assertStartPermit codec)
  whenPresent broker.preparation (fun preparation => assertPermitBound state preparation.permit)
  whenPresent broker.dispatch (fun permit => assertPermitBound state permit.toSessionBrokerPreparationPermit)
  whenPresent broker.start (fun start => assertPermitBound state start.dispatch.toSessionBrokerPreparationPermit)
  whenPresent broker.preparation (assertPreparation state)
  whenPresent broker.dispatch (fun permit =>
    sessionErrorIf (¬ ∃ effect ∈ activeEffect state, permit.dispatchAttempt = effect.dispatchAttempt)
      .failedPrecondition "broker dispatch attempt is inconsistent")
  whenPresent broker.start (fun start =>
    sessionErrorIf (¬ StartConsistent state broker start) .failedPrecondition
      "broker dispatch start proof is inconsistent")

def assertSessionBrokerState : Checked Unit :=
  whenPresent state.broker (fun broker => do
    assertBrokerReceipts codec state broker
    whenPresent broker.engineGrant (assertEngineGrant codec state)
    assertBrokerPermits codec state broker)

end Circulusd.Session
