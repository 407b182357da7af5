import Circulusd.Session.Core

/-
The operations of the session broker.
-/

namespace Circulusd.Session

open Checked Protocol

variable (codec : Codec) (state : SessionAggregateState) (command : SessionBrokerCommand)
variable (context : SessionApplyContext) (body : SessionBrokerDispatch) (now : Nat)
  (turn : ActiveTurn) (effect : SessionEffect) (request : SessionBrokerMutation)

def noActiveTurn : SessionFailure := .aggregate .notFound "Session has no active turn"

/-- The identity under which the broker stores the receipt of an operation. -/
def sessionBrokerOperationIdentity :
    SessionBrokerOperationKey :=
  let operationKey := match request with
    | .claimStart body => codec.dispatchStartKey body.key body.dispatchOpaque
    | other => other.operationKey?.getD ""
  { kind := request.kindForOperation
    operationKey := operationKey
    operationKeyDigest := codec.operationKeyDigest operationKey }

/-- The snapshot that stands for a removed one. -/
def blankSnapshot : SessionBrokerSnapshot where
  turnId := ""
  eventSequence := 0
  checkpointDigest := zeroDigest
  fence := ⟨0, 0, 0, 0⟩
  activeEffect := none

/-- A retry may read the clock again and, except for an acquisition, a newer snapshot. -/
def SessionBrokerMutation.semantic : SessionBrokerMutation → SessionBrokerMutation
  | .acquireStep body => .acquireStep { body with nowUnixMs := 0 }
  | .commitStep body => .commitStep { body with nowUnixMs := 0, snapshot := blankSnapshot }
  | .dispatch body => .dispatch { body with nowUnixMs := 0, snapshot := blankSnapshot }
  | .claimStart body => .claimStart { body with nowUnixMs := 0, snapshot := blankSnapshot }
  | .confirm body => .confirm { body with snapshot := blankSnapshot }
  | .settle body => .settle { body with snapshot := blankSnapshot }
  | .block body => .block { body with snapshot := blankSnapshot }
  | .prepareRetry body => .prepareRetry { body with nowUnixMs := 0, snapshot := blankSnapshot }
  | .settleRecovery body => .settleRecovery { body with snapshot := blankSnapshot }

def brokerRequestDigest (request : SessionBrokerMutation) : Digest :=
  codec.brokerRequestDigest request.semantic

def brokerOperationDigest : Digest :=
  match request with
  | .commitStep body => body.requestDigest
  | .dispatch body => body.operationDigest
  | .confirm body => body.operationDigest
  | .settle body => body.operationDigest
  | .block body => body.operationDigest
  | .prepareRetry body => body.operationDigest
  | .settleRecovery body => body.operationDigest
  | other => brokerRequestDigest codec other

def brokerHistoryWitness (identity : SessionBrokerOperationKey)
    (entry : Option (SessionBrokerOperationKey × Option SessionBrokerStoredReceipt)) :
    Checked (Option SessionBrokerStoredReceipt) :=
  match entry with
  | none => do
    sessionErrorIf (state.history ≠ none) .failedPrecondition "broker mutation lacks authenticated receipt lookup"
    return none
  | some (key, value) => do
    sessionErrorIf (key ≠ identity) .failedPrecondition "broker history witness has another identity"
    return value

/-- The receipt that an operation recorded before, hot or archived. -/
def brokerOriginal (identity : SessionBrokerOperationKey)
    (witness : Option SessionHistoryWitness) : Checked (Option SessionBrokerStoredReceipt) :=
  match (state.broker.map (·.receipts)).getD [] |>.find? (fun receipt =>
      receipt.kind = identity.kind ∧ receipt.operationKeyDigest = identity.operationKeyDigest) with
  | some receipt => .ok (some receipt)
  | none => brokerHistoryWitness state identity (witness.bind (·.brokerOperation))

def brokerReplay (witness : Option SessionHistoryWitness) : Checked (Option SessionBrokerStoredReceipt) := do
  let identity := sessionBrokerOperationIdentity codec request
  match ← brokerOriginal state identity witness with
  | none => return none
  | some original => do
    assertSessionBrokerReceipt codec original
    sessionErrorIf (original.operationKey ≠ identity.operationKey ∨ original.kind ≠ identity.kind)
      .failedPrecondition "broker receipt key binding is invalid"
    sessionErrorIf (original.operationDigest ≠ brokerOperationDigest codec request ∨
        original.requestDigest ≠ brokerRequestDigest codec request)
      .idempotencyConflict "broker operation key was reused with another request"
    return some original

def effectSnapshot : SessionBrokerEffectSnapshot where
  effectId := effect.effectId
  invocationId := effect.invocationId
  requestDigest := effect.requestDigest
  phase := effect.phase
  dispatchAttempt := effect.dispatchAttempt

def chainDigest : Checked Digest := do
  let turn ← require state.activeTurn noActiveTurn
  require (turn.toTurnRecord.chainDigest? codec)
    (.aggregate .failedPrecondition "external checkpoint lacks its chain digest")

def assertSnapshot (snapshot : SessionBrokerSnapshot) (sequence : Nat) : Checked Unit := do
  sessionErrorIf (¬ ∃ turn ∈ state.activeTurn, turn.turnId = snapshot.turnId) .notFound "broker turn is not active"
  sessionErrorIf (snapshot.fence ≠ fence state) .staleGeneration "broker snapshot fence is stale"
  let mismatch := "broker snapshot does not match the authoritative Session state"
  sessionErrorIf (snapshot.eventSequence ≠ sequence) .conflict mismatch
  let digest ← chainDigest codec state
  sessionErrorIf (snapshot.checkpointDigest ≠ digest ∨ snapshot.activeEffect ≠ (activeEffect state).map effectSnapshot)
    .conflict mismatch

def assertKey (expected : SessionBrokerEffectKey) : Checked SessionEffect :=
  require ((activeEffect state).filter (fun effect => effectKey effect.toEffectClaim = expected))
    (.aggregate .notFound "broker effect identity is not active")

/-- New work needs a live lease and no abort. -/
def assertLive : Checked ActiveTurn := do
  let turn ← require state.activeTurn noActiveTurn
  sessionErrorIf (turn.leaseExpiresAt ≤ now) .failedPrecondition "turn lease has expired"
  sessionErrorIf (turn.abortRequested = true) .failedPrecondition "turn abort blocks new work"
  return turn

def assertNoStart : Checked Unit :=
  sessionErrorIf (effect.hasStart = true) .dispatchAlreadyStarted "dispatch attempt already has a durable start claim"

def brokerScope : SessionBrokerScope where
  tenantId := state.tenantId
  workspaceId := state.workspaceId
  userId := state.userId
  sessionId := state.sessionId
  turnId := turn.turnId

def scope : Checked SessionBrokerScope := do
  let turn ← require state.activeTurn noActiveTurn
  return brokerScope state turn

def brokerOf : SessionBrokerState := state.broker.getD emptyBroker

def setBroker (broker : SessionBrokerState) : SessionAggregateState :=
  { state with broker := some broker }

def storedCheckpoint (checkpoint : StoredSessionCheckpoint) (blobs : BlobMap) :
    Checked (StoredSessionCheckpoint × BlobMap) :=
  match checkpoint with
  | .external _ => .ok (checkpoint, blobs)
  | .inline checkpoint => do
    let external ← externalizeAgentCheckpoint codec checkpoint
    return (.external external, blobs.set checkpoint.payloadDigest checkpoint.payloadBytes)

/-- An inline payload of a receipt is stored behind a reference. -/
def storedPayload (payload : StoredPayload) (blobs : BlobMap) : Checked (StoredPayload × BlobMap) :=
  match payload with
  | .reference _ => .ok (payload, blobs)
  | .inline value => do
    let (ref, stored) ← storeSessionPayload codec value blobs
    return (.reference ref, stored)

def storedSettlement (settlement : Option StoredEffectSettlement) (blobs : BlobMap) :
    Checked (Option StoredEffectSettlement × BlobMap) :=
  match settlement with
  | some (.success result) => do
    let (stored, blobs) ← storedPayload codec result blobs
    return (some (.success stored), blobs)
  | other => .ok (other, blobs)

def storedEffect (blobs : BlobMap) : Checked (SessionEffect × BlobMap) := do
  let (requestPayload, blobs) ← storedPayload codec effect.requestPayload blobs
  let (settlement, blobs) ← storedSettlement codec effect.settlement blobs
  return ({ effect with requestPayload := requestPayload, settlement := settlement }, blobs)

def newPreparation (opaqueBytes : Bytes) (deadline eventSequence : Nat) : SessionBrokerPreparationPermit :=
  { brokerScope state turn, effectKey effect.toEffectClaim with
    turnId := effect.turnId
    opaqueBytes := opaqueBytes
    service := effect.service
    operation := effect.operation
    parentOperationId := effect.parentOperationId
    ordinal := effect.ordinal.getD 0
    replayPolicy := effect.replayPolicy
    fence := fence state
    dispatchAttempt := effect.dispatchAttempt + 1
    deadline := deadline
    eventSequence := eventSequence }

/-- Every operation stores its original result behind a receipt. -/
def appendReceipt (value : SessionBrokerReceiptValue) (blobs : BlobMap) :
    Checked (SessionAggregateState × BlobMap × SessionBrokerStoredReceipt) := do
  let broker := brokerOf state
  let identity := sessionBrokerOperationIdentity codec request
  sessionErrorIf (broker.receiptSequence = maxSafeInteger) .failedPrecondition "broker receipt sequence exhausted"
  let (ref, blobs) ← storeSessionPayload codec (codec.receiptValue value) blobs
  let receipt : SessionBrokerStoredReceipt := {
    sequence := broker.receiptSequence + 1
    kind := identity.kind
    operationKey := identity.operationKey
    operationKeyDigest := identity.operationKeyDigest
    operationDigest := brokerOperationDigest codec request
    requestDigest := brokerRequestDigest codec request
    resultPayloadRef := ref
    referencedBlobs := payloadReferences value }
  assertSessionBrokerReceipt codec receipt
  return (setBroker state { broker with
    receiptSequence := broker.receiptSequence + 1
    receipts := broker.receipts ++ [receipt] }, blobs, receipt)

/-- The state of a direct operation before compaction and validation. -/
structure BrokerCandidate where
  state : SessionAggregateState
  ingestedPayloads : BlobMap
  receipt : SessionBrokerStoredReceipt

/-- A boundary operation also advances the event sequence with a command receipt. -/
def brokerCandidate (value : SessionBrokerReceiptValue) (blobs : BlobMap)
    (boundary : Option (SessionBrokerBoundary × String)) : Checked BrokerCandidate := do
  let (appended, blobs, receipt) ← appendReceipt codec state command.request value blobs
  let recorded := match boundary with
    | none => appended
    | some (operation, effectId) => recordCommandReceipt appended command.commandId
        (brokerRequestDigest codec command.request) (.brokerBoundary operation effectId)
  return ⟨reconcileSessionBrokerState recorded, blobs, receipt⟩

/-- The original effect of a settlement in the form that its receipt keeps. -/
def settlementReceipt (key : SessionBrokerEffectKey)
    (operationDigest : Digest) (error : Option SessionBrokerPublicError)
    (recoveryKind : Option SessionBrokerRecoveryKind) (blobs : BlobMap) (eventSequence : Nat) :
    Checked (SessionBrokerReceiptValue × BlobMap) := do
  let effect ← assertKey state key
  let scope ← scope state
  let (stored, blobs) ← storedEffect codec effect blobs
  return (.settlement { scope, key with
    turnId := key.turnId
    dispatchAttempt := effect.dispatchAttempt
    externalCommitId := effect.externalCommitId
    resultRef := effect.resultRef
    error := error
    operationDigest := operationDigest
    recoveryKind := recoveryKind
    effect := stored
    eventSequence := eventSequence }, blobs)

def appendBrokerPublicEvent (body : SessionPublicEventBody) : Checked SessionAggregateState :=
  if publiclyAdmitted state effect.turnId then do
    sessionErrorIf (state.publicEventSequence = maxSafeInteger) .failedPrecondition "public event sequence exhausted"
    return { state with
      publicEventSequence := state.publicEventSequence + 1
      publicEvents := state.publicEvents ++ [⟨state.publicEventSequence + 1, effect.turnId, turn.sequence, body⟩] }
  else .ok state

/-- The budget of a grant stays below the trusted policy. -/
def BudgetAllowed (budget limits : SessionBrokerBudget) : Prop :=
  budget.maximumEvents = 1 ∧ budget.maximumEphemeralBytes ≤ limits.maximumEphemeralBytes ∧
    budget.maximumWallClockMs ≤ limits.maximumWallClockMs
deriving Decidable

/-- The settled effect that a grant hands to the engine. -/
def grantSettlement (effect : Option SessionEffect) (blobs : BlobMap) :
    Checked (Option SessionBrokerSettlementSnapshot × BlobMap) :=
  match effect with
  | none => .ok (none, blobs)
  | some effect => do
    let (stored, blobs) ← storedEffect codec effect blobs
    return (stored.settlement.map (fun settlement => ⟨stored, settlement⟩), blobs)

def acquireStep (body : SessionBrokerAcquire) (now : Nat) : Checked BrokerCandidate := do
  let turn ← assertLive state now
  sessionErrorIf (∃ effect ∈ activeEffect state, effect.phase ≠ .settled) .failedPrecondition
    "engine step has an outstanding effect"
  sessionErrorIf (∃ grant ∈ (brokerOf state).engineGrant, now < grant.deadline) .failedPrecondition
    "an engine grant is already outstanding"
  sessionErrorIf (¬ BudgetAllowed body.budget command.host.policy.engineStepLimits) .failedPrecondition
    "engine budget exceeds trusted runtime policy"
  let deadline := body.nowUnixMs + body.budget.maximumWallClockMs
  brokerInteger deadline "grant deadline" 1
  sessionErrorIf (now < body.nowUnixMs ∨ deadline ≤ now ∨ turn.leaseExpiresAt < deadline) .failedPrecondition
    "engine grant deadline is invalid or expired"
  let (settlement, blobs) ← grantSettlement codec (activeEffect state) []
  let checkpointDigest ← chainDigest codec state
  let (checkpoint, blobs) ← storedCheckpoint codec turn.checkpoint blobs
  let grant : SessionBrokerEngineGrant := { brokerScope state turn with
    opaqueBytes := command.host.opaqueBytes
    operationKey := body.operationKey
    fence := fence state
    expectedEventSequence := state.eventSequence
    checkpointDigest := checkpointDigest
    budget := body.budget
    deadline := deadline
    checkpoint := checkpoint
    unconsumedSettlement := settlement }
  brokerCandidate codec (setBroker state { brokerOf state with engineGrant := some grant }) command
    (.engineGrant grant) blobs none

/-- A renewal is possible only for an expired, never dispatched preparation. -/
def InitialRenewal (body : SessionBrokerRetry) (now : Nat) : Prop :=
  body.userConfirmed = false ∧ ∃ preparation ∈ (brokerOf state).preparation, preparation.retry = false ∧
    preparation.permit.deadline ≤ now ∧ preparation.permit.fence = fence state
deriving Decidable

/-- The replay policy decides which uncertain effects may reserve another attempt. -/
def RetryAllowed (effect : SessionEffect) (body : SessionBrokerRetry) : Prop :=
  (effect.phase = .dispatched ∨ effect.phase = .blocked) ∧
    (effect.replayPolicy = .safe ∨ effect.replayPolicy = .idempotencyKey ∨
      effect.replayPolicy = .confirm ∧ effect.phase = .blocked ∧ body.userConfirmed = true)
deriving Decidable

def prepareRetry (body : SessionBrokerRetry) (now : Nat) : Checked BrokerCandidate := do
  let turn ← assertLive state now
  let effect ← assertKey state body.key
  assertNoStart effect
  sessionErrorIf (now < body.nowUnixMs ∨ body.deadlineUnixMs ≤ now ∨ turn.leaseExpiresAt < body.deadlineUnixMs)
    .failedPrecondition "effect preparation deadline is invalid"
  let initial := effect.phase = .prepared
  sessionErrorIf (initial ∧ ¬ InitialRenewal state body now) .failedPrecondition
    "initial preparation is absent, live or stale"
  sessionErrorIf (¬ initial ∧ ¬ RetryAllowed effect body) .failedPrecondition "effect cannot reserve this retry"
  let deadline := if initial then min body.deadlineUnixMs (now + command.host.policy.preparationTTLms)
    else body.deadlineUnixMs
  brokerInteger deadline "preparation deadline" 1
  let permit := newPreparation state turn effect command.host.opaqueBytes deadline (state.eventSequence + 1)
  let checkpointDigest ← chainDigest codec state
  let preparation : SessionBrokerPreparation := {
    permit := permit
    sourceEventSequence := state.eventSequence
    sourceDispatchAttempt := effect.dispatchAttempt
    sourceCheckpointDigest := checkpointDigest
    retry := !decide initial }
  brokerCandidate codec (setBroker state { brokerOf state with preparation := some preparation }) command
    (.preparation permit) [] (some (.retry, body.key.effectId))

def blockOperation (body : SessionBrokerBlock) : Checked BrokerCandidate := do
  let effect ← assertKey state body.key
  assertNoStart effect
  sessionErrorIf (effect.phase ≠ .dispatched ∨ effect.replayPolicy ≠ .confirm) .failedPrecondition
    "only an uncertain confirm effect can block"
  let turn ← require state.activeTurn noActiveTurn
  let blocked := setBroker (blockEffect state turn effect.effectId) { brokerOf state with preparation := none }
  let published ← appendBrokerPublicEvent blocked turn effect (.turnNeedsConfirmation (publicIdentity effect))
  let receipt : SessionBrokerBlockReceipt := { brokerScope state turn, effectKey effect.toEffectClaim with
    turnId := effect.turnId
    replayPolicy := effect.replayPolicy
    dispatchAttempt := effect.dispatchAttempt
    operationDigest := body.operationDigest
    reason := body.reason
    eventSequence := state.eventSequence + 1 }
  brokerCandidate codec published command (.block receipt) [] (some (.block, body.key.effectId))

/-- The settlement that recovery gives to an effect. -/
def recoverySettlement (body : SessionBrokerRecoverySettlement) : StoredEffectSettlement :=
  match body.kind with
  | .failed => .error "effect.failed" "The effect failed." body.error.retryable
  | .interruptedUnknown =>
    .interruptedUnknown (if body.error.reason = "" then "uncertain dispatch interrupted"
      else body.error.reason)

def assertRecoverable (kind : SessionBrokerRecoveryKind) : Checked Unit := do
  sessionErrorIf (effect.phase ≠ .prepared ∧ effect.phase ≠ .dispatched ∧ effect.phase ≠ .blocked)
    .failedPrecondition "effect cannot be settled by recovery"
  match kind with
  | .failed =>
    sessionErrorIf (effect.phase = .blocked) .failedPrecondition
      "blocked recovery requires cancellation or confirmation"
  | .interruptedUnknown => do
    assertNoStart effect
    sessionErrorIf (effect.phase ≠ .dispatched ∧ turn.abortRequested = false) .failedPrecondition
      "prepared or blocked interruption requires a turn abort"

def settleRecovery (body : SessionBrokerRecoverySettlement) : Checked BrokerCandidate := do
  let effect ← assertKey state body.key
  let turn ← require state.activeTurn noActiveTurn
  assertRecoverable turn effect body.kind
  let settlement := recoverySettlement body
  let resumed := if effect.phase = .blocked then resumeTurn state turn else state
  let settled := updateEffect resumed effect.effectId (fun current => { current with
    phase := .settled
    settlement := some settlement })
  let published ← appendBrokerPublicEvent (setBroker settled (brokerOf state)) turn effect
    (.effectSettled (eventClassOf effect.service) (publicIdentity effect) settlement.kind)
  let (value, blobs) ← settlementReceipt codec published body.key body.operationDigest (some body.error)
    (some body.kind) [] (state.eventSequence + 1)
  brokerCandidate codec published command value blobs (some (.recoverySettlement, body.key.effectId))

/-- A broker operation that runs through a core command adds its own result to the candidate. -/
abbrev BrokerResult :=
  SessionAggregateState → BlobMap → Checked (SessionAggregateState × SessionBrokerReceiptValue × BlobMap)

/-- The base of every core command that an operation issues. -/
def coreBase : ActiveTurnCommandBase where
  commandId := command.commandId
  expectedEventSequence := state.eventSequence
  turnId := command.request.snapshot.turnId
  fence := command.request.snapshot.fence

/-- The key of the request names the effect, the snapshot names the turn. -/
def effectBase (key : SessionBrokerEffectKey) : EffectCommandBase :=
  { coreBase state command with
    turnId := key.turnId
    effectId := key.effectId
    invocationId := key.invocationId
    requestDigest := key.requestDigest }

/-- The grant is live and belongs to the current boundary. -/
def GrantLive (grant : SessionBrokerEngineGrant) (body : SessionBrokerCommit)
    (now : Nat) (checkpointDigest : Digest) : Prop :=
  grant.opaqueBytes = body.permitOpaque ∧ now < grant.deadline ∧ body.nowUnixMs ≤ now ∧
    body.nowUnixMs < grant.deadline ∧ grant.expectedEventSequence = state.eventSequence ∧
    grant.checkpointDigest = checkpointDigest
deriving Decidable

/-- A prepared effect gets its first reservation together with the step that requested it. -/
def commitPreparation : Checked (Option SessionBrokerPreparation) :=
  match state.activeTurn, (activeEffect state).filter (·.phase = .prepared) with
  | some turn, some effect => do
    let deadline := min turn.leaseExpiresAt (now + command.host.policy.preparationTTLms)
    brokerInteger deadline "preparation deadline" 1
    let checkpointDigest ← chainDigest codec state
    return some {
      permit := newPreparation state turn effect command.host.secondaryOpaque deadline state.eventSequence
      sourceEventSequence := state.eventSequence
      sourceDispatchAttempt := 0
      sourceCheckpointDigest := checkpointDigest
      retry := false }
  | _, _ => .ok none

def commitResult (body : SessionBrokerCommit) (now : Nat) :
    BrokerResult := fun state blobs => do
  let cleared := { brokerOf state with engineGrant := none }
  let preparation ← commitPreparation codec state command now
  let broker := if preparation = none then cleared else { cleared with preparation := preparation }
  let (stored, blobs) ← match activeEffect state with
    | none => .ok (none, blobs)
    | some effect => do
      let (stored, blobs) ← storedEffect codec effect blobs
      .ok (some stored, blobs)
  return (setBroker state broker, .step {
    operationKey := body.operationKey
    eventSequence := state.eventSequence
    preparedEffect := stored
    preparation := preparation.map (·.permit) }, blobs)

def commitStep (body : SessionBrokerCommit) (now : Nat) : Checked (CoreCommand × BrokerResult) := do
  let _ ← assertLive state now
  let missing := SessionFailure.aggregate .failedPrecondition "engine grant is absent, expired or consumed"
  let grant ← require (brokerOf state).engineGrant missing
  let checkpointDigest ← chainDigest codec state
  let grant ← require ((some grant).filter (GrantLive state · body now checkpointDigest)) missing
  let identity := if body.step.kind = .effectRequest then
      some ⟨command.host.effectId, command.host.invocationId⟩ else none
  return (.commitEngineStep { coreBase state command with
    transactionTime := now
    consumedSettlementEffectId := grant.unconsumedSettlement.map (·.effect.effectId)
    effectIdentity := identity
    step := body.step }, commitResult codec command body now)

/-- The dispatch repeats the exact live preparation. -/
def PreparationLive (preparation : SessionBrokerPreparation) (body : SessionBrokerDispatch) (now : Nat) : Prop :=
  preparation.permit.opaqueBytes = body.preparationOpaque ∧
    preparation.permit.deadline = body.deadlineUnixMs ∧ now < preparation.permit.deadline ∧
    body.nowUnixMs ≤ now ∧ preparation.permit.fence = fence state
deriving Decidable

def dispatchResult (preparation : SessionBrokerPreparation) : BrokerResult := fun state blobs =>
  let permit : SessionBrokerDispatchPermit := { preparation.permit with
    opaqueBytes := command.host.opaqueBytes
    dispatchAttempt := ((activeEffect state).map (·.dispatchAttempt)).getD 0
    eventSequence := state.eventSequence
    providerRequestId := body.providerRequestId
    providerRouteDigest := body.providerRouteDigest }
  .ok (setBroker state { brokerOf state with preparation := none, dispatch := some permit, start := none },
    .dispatch permit, blobs)

/-- The core command that authorizes the reserved attempt. -/
def dispatchCommand (retry : Bool) (now : Nat) : CoreCommand :=
  let base := effectBase state command body.key
  if retry = false then .dispatchEffect { base with
    transactionTime := now
    deadline := body.deadlineUnixMs
    providerRequestId := body.providerRequestId
    providerRouteDigest := body.providerRouteDigest }
  else if effect.phase = .blocked then .resolveConfirmation { base with
    decision := .retry
    transactionTime := some now
    deadline := some body.deadlineUnixMs
    providerRequestId := body.providerRequestId
    providerRouteDigest := some body.providerRouteDigest }
  else .recoverEffect { base with
    transactionTime := now
    deadline := body.deadlineUnixMs
    providerRequestId := body.providerRequestId
    providerRouteDigest := some body.providerRouteDigest }

def dispatchOperation : Checked (CoreCommand × BrokerResult) := do
  let _ ← assertLive state now
  let effect ← assertKey state body.key
  let preparation ← require ((brokerOf state).preparation.filter (PreparationLive state · body now))
    (.aggregate .failedPrecondition "dispatch lacks its exact live preparation")
  if preparation.retry then assertNoStart effect else .ok ()
  return (dispatchCommand state command body effect preparation.retry now, dispatchResult command body preparation)

/-- The start claim repeats the exact live dispatch proof. -/
def DispatchLive (dispatch : SessionBrokerDispatchPermit) (body : SessionBrokerClaim) (now : Nat) : Prop :=
  dispatch.opaqueBytes = body.dispatchOpaque ∧ now < dispatch.deadline ∧ body.nowUnixMs ≤ now ∧
    dispatch.fence = fence state
deriving Decidable

/-- The permit claims behind a dispatch permit of the broker. -/
def brokerClaims (dispatch : SessionBrokerDispatchPermit) : DispatchPermitClaims :=
  let claim := { effect.toEffectClaim with
    tenantId := state.tenantId
    userId := state.userId
    sessionId := state.sessionId }
  { claimInput claim, dispatch.fence with
    dispatchAttempt := dispatch.dispatchAttempt
    providerRouteDigest := dispatch.providerRouteDigest
    deadline := dispatch.deadline }

def claimResult (body : SessionBrokerClaim)
    (dispatch : SessionBrokerDispatchPermit) : BrokerResult := fun state blobs =>
  let permit : SessionBrokerDispatchStartPermit := {
    dispatch := dispatch
    opaqueBytes := command.host.opaqueBytes
    commandDigest := body.commandDigest
    eventSequence := state.eventSequence }
  .ok (setBroker state { brokerOf state with start := some permit }, .startClaim ⟨true, permit⟩, blobs)

def claimStart (body : SessionBrokerClaim) (now : Nat) : Checked (CoreCommand × BrokerResult) := do
  let _ ← assertLive state now
  let effect ← assertKey state body.key
  let dispatch ← require ((brokerOf state).dispatch.filter (DispatchLive state · body now))
    (.aggregate .failedPrecondition "start claim lacks its exact live dispatch proof")
  sessionErrorIf ((brokerOf state).start ≠ none) .idempotencyConflict
    "dispatch start already has a different command binding"
  let claims := brokerClaims state effect dispatch
  parseDispatchPermitClaims codec claims
  return (.claimDispatchStart { effectBase state command body.key with
    expectedEventSequence := dispatch.eventSequence
    workspaceId := state.workspaceId
    transactionTime := now
    dispatchAttempt := dispatch.dispatchAttempt
    providerRequestId := dispatch.providerRequestId
    providerRouteDigest := dispatch.providerRouteDigest
    dispatchPermitClaims := claims
    commandDigest := body.commandDigest }, claimResult command body dispatch)

def confirmResult (body : SessionBrokerConfirm) (effect : SessionEffect) : BrokerResult :=
  fun state blobs => do
    let scope ← scope state
    return (setBroker state { brokerOf state with preparation := none }, .confirmation { scope, body.key with
      turnId := body.key.turnId
      service := effect.service
      operation := effect.operation
      dispatchAttempt := body.dispatchAttempt
      providerRequestId := body.providerRequestId
      externalCommitId := body.externalCommitId
      resultRef := body.resultRef
      operationDigest := body.operationDigest
      eventSequence := state.eventSequence }, blobs)

def confirmOperation (body : SessionBrokerConfirm) : Checked (CoreCommand × BrokerResult) := do
  let effect ← assertKey state body.key
  sessionErrorIf (¬ ∃ dispatch ∈ effect.lastDispatch, dispatch.dispatchAttempt = body.dispatchAttempt ∧
      dispatch.providerRequestId = body.providerRequestId ∧
      dispatch.providerRouteDigest = body.providerRouteDigest)
    .conflict "external commit provider identity does not match dispatch"
  return (.recordExternalCommit { effectBase state command body.key with
    dispatchAttempt := body.dispatchAttempt
    externalCommitId := body.externalCommitId
    resultRef := body.resultRef }, confirmResult body effect)

/-- Only the fixed projection of a public error enters the state. -/
def SettlementProjection (error : Option SessionBrokerPublicError) (settlement : EffectSettlement) : Prop :=
  ∀ present ∈ error, settlement = .error "effect.failed" "The effect failed." present.retryable
deriving Decidable

def settleResult (body : SessionBrokerSettle) : BrokerResult := fun state blobs => do
  let (value, blobs) ← settlementReceipt codec state body.key body.operationDigest body.error none blobs
    state.eventSequence
  return (state, value, blobs)

def settleOperation (body : SessionBrokerSettle) : Checked (CoreCommand × BrokerResult) := do
  let effect ← assertKey state body.key
  sessionErrorIf (effect.phase ≠ .externallyCommitted ∨ effect.externalCommitId ≠ some body.externalCommitId ∨
      effect.resultRef ≠ body.resultRef ∨ effect.dispatchAttempt ≠ body.dispatchAttempt)
    .failedPrecondition "settlement lacks the exact external commit proof"
  sessionErrorIf (¬ (body.error = none ↔ body.settlement.kind = .success) ∨ (body.error = none ∧ body.resultRef = none))
    .invalidArgument "settlement outcome does not match its result/error proof"
  sessionErrorIf (¬ SettlementProjection body.error body.settlement) .invalidArgument
    "settlement error body does not match its public error"
  return (.settleEffect { effectBase state command body.key with
    dispatchAttempt := some body.dispatchAttempt
    settlement := body.settlement }, settleResult codec body)

/-- The receipt of an operation is appended after its own result. -/
def finalizeWith (result : BrokerResult) : BrokerFinalize :=
  fun state blobs => do
    let (finalized, value, blobs) ← result (setBroker state (brokerOf state)) blobs
    appendReceipt codec finalized request value blobs

/-- A retry reservation excludes everything but its own resolution. -/
def SessionBrokerMutation.allowedDuringRetry (deadline now : Nat) : Bool :=
  match request with
  | .dispatch _ => true
  | .confirm _ => true
  | .block _ => true
  | .settleRecovery _ => true
  | .prepareRetry _ => deadline ≤ now
  | _ => false

def retryReservation : Option SessionBrokerPreparation :=
  (state.broker.bind (·.preparation)).filter (·.retry)

def SessionBrokerMutation.isDispatch : SessionBrokerMutation → Bool
  | .dispatch _ => true
  | _ => false

/-- The snapshot of the caller is current, or it is the source of a retry reservation. -/
def assertReservation : Checked Unit := do
  let snapshot := command.request.snapshot
  let reserved := if command.request.isDispatch then retryReservation state else none
  assertSnapshot codec state snapshot ((reserved.map (·.sourceEventSequence)).getD state.eventSequence)
  sessionErrorIf (command.expectedEventSequence ≠ snapshot.eventSequence) .invalidArgument
    "broker command snapshot sequence mismatch"
  sessionErrorIf (∃ reservation ∈ reserved, state.eventSequence ≠ reservation.permit.eventSequence ∨
      reservation.sourceCheckpointDigest ≠ snapshot.checkpointDigest)
    .conflict "retry preparation was superseded before dispatch"
  sessionErrorIf (∃ reservation ∈ retryReservation state,
      command.request.allowedDuringRetry reservation.permit.deadline now = false)
    .failedPrecondition "durable retry reservation excludes other mutations"

/-- A direct operation always adopts the compacted state. -/
def compactBrokerCandidate : Checked (SessionAggregateState × Option SessionArchiveDelta) :=
  match context.history with
  | none => .ok (state, none)
  | some _ => do
    let (compacted, archive) ← compactSessionHistory state (context.historyMaxRecords.getD sessionHistoryMaxRecords)
    return (compacted, some archive)

def finish (previous : SessionAggregateState) (candidate : BrokerCandidate)
    (commandDigest : Digest) (context : SessionApplyContext) : Checked ApplySessionCommandResult := do
  let (next, archiveDelta) ← compactBrokerCandidate candidate.state context
  validateSessionState codec next
  assertSessionCapacity codec previous next
  return {
    state := next
    outcome := .brokerResult candidate.receipt false
    commandDigest := commandDigest
    replayed := false
    blobs := some candidate.ingestedPayloads
    referencedBlobs := some (sessionReferencedBlobDigests next)
    archiveDelta := archiveDelta }

/-- A direct operation changes the state itself; a routed one runs a core command. -/
inductive BrokerTransition where
  | direct (candidate : BrokerCandidate)
  | routed (core : CoreCommand) (result : BrokerResult)

def brokerTransition : Checked BrokerTransition :=
  match command.request with
  | .acquireStep body => .direct <$> acquireStep codec state command body now
  | .commitStep body => (fun routed => .routed routed.1 routed.2) <$> commitStep codec state command body now
  | .dispatch body => (fun routed => .routed routed.1 routed.2) <$> dispatchOperation state command body now
  | .claimStart body => (fun routed => .routed routed.1 routed.2) <$> claimStart codec state command body now
  | .confirm body => (fun routed => .routed routed.1 routed.2) <$> confirmOperation state command body
  | .settle body => (fun routed => .routed routed.1 routed.2) <$> settleOperation codec state command body
  | .prepareRetry body => .direct <$> prepareRetry codec state command body now
  | .block body => .direct <$> blockOperation codec state command body
  | .settleRecovery body => .direct <$> settleRecovery codec state command body

/-- The checks of a broker command before its receipt lookup. -/
def validateBrokerCommand (context : Option SessionApplyContext) : Checked SessionApplyContext := do
  validateSessionState codec state
  assertSessionBrokerAuthority codec state command.authority
  validateSessionBrokerCommandShape codec command
  let context ← require context (.aggregate .failedPrecondition "broker mutation requires trusted transaction context")
  brokerInteger context.transactionTime "transactionTime" 0
  let identity := sessionBrokerOperationIdentity codec command.request
  sessionErrorIf (identity.operationKey ≠ command.operationKey ∨
      identity.operationKeyDigest ≠ command.operationKeyDigest)
    .invalidArgument "broker operation key digest mismatch"
  return context

def applyBrokerTransition : BrokerTransition → Checked ApplySessionCommandResult
  | .direct candidate =>
    finish codec state candidate (brokerRequestDigest codec command.request) context
  | .routed core result => do
    let (applied, receipt) ← applySessionCoreCommand codec state core (some context)
      (some (finalizeWith codec command.request result))
    -- a replayed core command records no receipt
    let receipt ← require receipt (.aggregate .failedPrecondition
      "broker transition did not commit its original receipt")
    return { applied with outcome := .brokerResult receipt false }

def applySessionBrokerCommand (context : Option SessionApplyContext) : Checked ApplySessionCommandResult := do
  let context ← validateBrokerCommand codec state command context
  match ← brokerReplay codec state command.request context.history with
  | some original =>
    return replayResult state (.brokerResult original (command.request.kindForOperation = .claim))
      (brokerRequestDigest codec command.request)
  | none =>
    assertReservation codec state command context.transactionTime
    let transition ← brokerTransition codec state command context.transactionTime
    applyBrokerTransition codec state command context transition

end Circulusd.Session
