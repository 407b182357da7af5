import Circulusd.Session.Replay

/-
The transition of each core command.
-/

namespace Circulusd.Session

open Checked Protocol Option

variable (codec : Codec) (state : SessionAggregateState)
variable (step : EngineStepResult) (command : EffectCommandBase) (turn : TurnRecord)
  (turnId : String) (active : ActiveTurn) (effect : SessionEffect)

/-- What a command computes before the promotion of queued turns and the public events. -/
structure Transition where
  next : SessionAggregateState
  outcome : StoredSessionCommandOutcome
  turnPromotionTime : Option Nat
  ingestedPayloads : BlobMap

/-- The trusted host time replaces the time inside the command when there is one. -/
def verificationTime (context : Option SessionApplyContext) (transactionTime : Nat) : Nat :=
  (context.map (·.transactionTime)).getD transactionTime

/-- A protocol failure inside a command becomes an aggregate failure. -/
def protocolFailureAs {α : Type} (check : Checked α) (code : SessionAggregateErrorCode) (label : String) : Checked α :=
  match check with
  | .error (.protocol error) => sessionError code (label ++ error.text)
  | outcome => outcome

@[simp]
theorem protocolFailureAs_ok_iff {α : Type} (check : Checked α) (code : SessionAggregateErrorCode)
    (label : String) (result : α) :
    protocolFailureAs check code label = .ok result ↔ check = .ok result := by
  unfold protocolFailureAs
  split <;> simp

def requireActiveTurn : Checked ActiveTurn :=
  require (state.activeTurn.filter (·.turnId = turnId)) (.aggregate .notFound ("turn " ++ turnId ++ " is not active"))

@[simp]
theorem requireActiveTurn_ok_iff : requireActiveTurn state turnId = .ok active ↔
      state.activeTurn = some active ∧ active.turnId = turnId := by
  simp [requireActiveTurn, filter_eq_some_iff]

/-- An effect command names the active effect of the active turn. -/
def requireActiveEffect : Checked (ActiveTurn × SessionEffect) :=
  let missing := "effect " ++ command.effectId ++ " is not active"
  match state.activeTurn, effectById state command.effectId with
  | some active, some effect => do
    sessionErrorIf (active.activeEffectId ≠ some command.effectId ∨ effect.turnId ≠ command.turnId) .notFound missing
    return (active, effect)
  | _, _ => sessionError .notFound missing

@[simp]
theorem requireActiveEffect_ok_iff : requireActiveEffect state command = .ok (active, effect) ↔
      state.activeTurn = some active ∧ effectById state command.effectId = some effect ∧
        active.activeEffectId = some command.effectId ∧ effect.turnId = command.turnId := by
  unfold requireActiveEffect
  cases state.activeTurn with
  | none => simp
  | some current =>
    cases effectById state command.effectId with
    | none => simp
    | some found =>
      simp only [steps_ok, exists_and_left, sessionErrorIf_ok, not_or, some.injEq]
      constructor
      · rintro ⟨⟨named, turn⟩, rfl, rfl⟩
        exact ⟨rfl, rfl, named, turn⟩
      · rintro ⟨rfl, rfl, named, turn⟩
        exact ⟨⟨named, turn⟩, rfl, rfl⟩

def assertEffectIdentity (command : EffectCommandBase) : Checked Unit :=
  sessionErrorIf (effect.invocationId ≠ command.invocationId ∨ effect.requestDigest ≠ command.requestDigest)
    .digestMismatch "effect identity or requestDigest does not match"

def updateEffect (effectId : String) (change : SessionEffect → SessionEffect) : SessionAggregateState :=
  { state with effects := state.effects.map (fun effect =>
      if effect.effectId = effectId then change effect else effect) }

def appendPublicEvent (turnSequence : Nat) (body : SessionPublicEventBody) : Checked SessionAggregateState := do
  sessionErrorIf (state.publicEventSequence = maxSafeInteger) .failedPrecondition
    "public event sequence cannot be incremented safely"
  return { state with
    publicEventSequence := state.publicEventSequence + 1
    publicEvents := state.publicEvents ++ [⟨state.publicEventSequence + 1, turnId, turnSequence, body⟩] }

/-- A turn becomes active without an effect and without an abort. -/
def TurnRecord.activate : ActiveTurn :=
  { turn with
    status := .active
    abortRequested := false
    abortReason := none
    activeEffectId := none }

def TurnRecord.terminate (finalCheckpoint : StoredSessionCheckpoint)
    (abortRequested : Bool) (abortReason : Option String) (result : TerminalResult) : TerminalTurn where
  turnId := turn.turnId
  sequence := turn.sequence
  input := turn.input
  inputDigest := turn.inputDigest
  finalCheckpoint := finalCheckpoint
  turnLeaseGeneration := turn.turnLeaseGeneration
  leaseExpiresAt := turn.leaseExpiresAt
  abortRequested := abortRequested
  abortReason := abortReason
  result := result

/-- The active turn becomes terminal and leaves the session ready. -/
def settleActiveTurn (turn : TerminalTurn) : SessionAggregateState :=
  { state with
    terminalTurns := state.terminalTurns ++ [turn]
    latestSettledTurn := some turn.turnId
    activeTurn := none
    status := .ready }

/-- The turn that an admission appends to the known turns. -/
def admitTurn : SessionAggregateState :=
  let known := { state with
    nextTurnSequence := state.nextTurnSequence + 1
    knownTurnIds := state.knownTurnIds ++ [turn.turnId] }
  if state.activeTurn = none then { known with activeTurn := some turn.activate, status := .running }
  else { known with queuedTurns := state.queuedTurns ++ [{ turn with }] }

def recordAdmission (activated : Bool) (admission : PublicTurnAdmission) : Checked SessionAggregateState := do
  let ok ← appendPublicEvent state turn.turnId turn.sequence (.turnAccepted activated)
  return { ok with
    turnAdmissionReceipts := ok.turnAdmissionReceipts ++ [{
      idempotencyKeyDigest := admission.idempotencyKeyDigest
      requestDigest := admission.requestDigest
      inputDigest := turn.inputDigest
      turnId := turn.turnId
      turnSequence := turn.sequence
      activated := activated
      publicEventSequence := ok.publicEventSequence }] }

/-- A turn identity is new among the hot turns and in the archive. -/
def assertNewTurn (witness : Option SessionHistoryWitness) : Checked Unit := do
  let archived ← if turnId ∈ state.knownTurnIds then .ok none
    else historyWitness state (witness.bind (·.turn)) turnId "turnId"
  sessionErrorIf (∃ identity ∈ archived, identity.turnId ≠ turnId) .failedPrecondition
    "archived turn lookup has a different identity"
  sessionErrorIf (turnId ∈ state.knownTurnIds ∨ archived ≠ none) .alreadyExists ("turn " ++ turnId ++ " already exists")

def enqueueTurn (command : EnqueueTurnCommand) (context : Option SessionApplyContext) : Checked Transition := do
  sessionErrorIf (state.runtimePointer.candidateRevision ≠ none) .failedPrecondition
    "new turn admission is frozen while a runtime revision candidate is staged"
  sessionErrorIf (∃ active ∈ state.activeTurn, active.status = .needsConfirmation) .needsConfirmation
    "a blocked confirm effect prevents later turn admission"
  validatedIdentifier codec command.turnId "turnId"
  assertNewTurn state command.turnId (SessionApplyContext.witness? context)
  validatedInteger command.transactionTime "transactionTime" 0
  let input ← validatedInput codec command
  validatedInteger command.turnLeaseGeneration "turnLeaseGeneration" 1
  validatedInteger command.leaseExpiresAt "leaseExpiresAt" 1
  sessionErrorIf (command.leaseExpiresAt ≤ verificationTime context command.transactionTime)
    .failedPrecondition "turn admission requires transactionTime < leaseExpiresAt"
  let checkpoint := command.genesisCheckpoint
  protocolFailureAs (validateAgentCheckpoint codec checkpoint) .digestMismatch "invalid genesis checkpoint: "
  checkpointMatchesSession state checkpoint.toCheckpointMetadata command.turnId true
  sessionErrorIf (checkpoint.kind ≠ .genesis) .failedPrecondition "a newly admitted turn requires a genesis checkpoint"
  let genesis ← externalizeAgentCheckpoint codec checkpoint
  let (inputRef, blobs) ← storeSessionPayload codec input
    (BlobMap.set [] checkpoint.payloadDigest checkpoint.payloadBytes)
  let turn : TurnRecord := {
    turnId := command.turnId
    sequence := state.nextTurnSequence
    input := .reference inputRef
    inputDigest := command.inputDigest
    checkpoint := .external genesis
    checkpointChainDigest := some (codec.validatedCheckpointDigest checkpoint)
    turnLeaseGeneration := command.turnLeaseGeneration
    leaseExpiresAt := command.leaseExpiresAt }
  let activated := state.activeTurn.isNone
  let admitted := admitTurn state turn
  let next ← match command.publicAdmission with
    | none => .ok admitted
    | some admission => recordAdmission admitted turn activated admission
  return ⟨next, .turnEnqueued command.turnId turn.sequence activated, none, blobs⟩

/-- The value inside a step must be canonical as it arrives. -/
def assertCanonicalStepValue (value : NormalizedValue) (field : String) : Checked Unit := do
  let _ ← validatedNormalizedValue codec value field sessionValueMaxEncodedBytes true .invalidArgument
  return ()

def assertStepValues : EngineStepResult → Checked Unit
  | .checkpoint _ => .ok ()
  | .effectRequest _ request =>
    assertCanonicalStepValue codec request.payload "engine step effect request payload"
  | .turnComplete _ result => assertCanonicalStepValue codec result "engine step turn result"
  | .turnError _ error =>
    whenPresent error.details (fun details =>
      assertCanonicalStepValue codec details "engine step error details")

def validatedStep : Checked EngineStepResult := do
  let parsed ← protocolFailureAs (parseEngineStepResult codec step) .invalidArgument "invalid engine step: "
  protocolFailureAs (validateAgentCheckpoint codec parsed.committed) .invalidArgument "invalid engine step: "
  assertStepValues codec parsed
  return parsed

/-- The digest that the next checkpoint must name as its predecessor. -/
def TurnRecord.chainDigest? : Option Digest :=
  match turn.checkpointChainDigest, turn.checkpoint with
  | some digest, _ => some digest
  | none, .inline checkpoint => some (codec.validatedCheckpointDigest checkpoint)
  | none, .external _ => none

/-- A step consumes the settlement of the active effect, exactly once. -/
def consumeSettlement (consumed : Option String)
    (checkpointSequence : Nat) : Checked (SessionAggregateState × Option String) :=
  match active.activeEffectId with
  | none => do
    sessionErrorIf (consumed ≠ none) .failedPrecondition "no active settlement exists to consume"
    return (state, none)
  | some effectId => do
    let effect ← require ((effectById state effectId).filter (·.phase = .settled))
      (.aggregate .failedPrecondition "the active effect has not settled")
    sessionErrorIf (consumed ≠ some effect.effectId) .failedPrecondition
      "the engine step did not consume the active settlement"
    sessionErrorIf (effect.unconsumed = false) .failedPrecondition "the settlement was already consumed"
    return (updateEffect state effectId (fun settled =>
      { settled with consumedAtCheckpointSequence := some checkpointSequence }), some effect.effectId)

/-- An effect identity is new among the hot effects and in the archive. -/
def assertNewEffect (identity : EffectIdentity) (witness : Option SessionHistoryWitness) : Checked Unit := do
  let hotEffect := state.effects.any (·.effectId = identity.effectId)
  let hotInvocation := state.effects.any (·.invocationId = identity.invocationId)
  let archivedEffect ← if hotEffect then .ok none
    else historyWitness state (witness.bind (·.effect)) identity.effectId "effectId"
  let archivedInvocation ← if hotInvocation then .ok none
    else historyWitness state (witness.bind (·.invocation)) identity.invocationId "invocationId"
  sessionErrorIf ((∃ archived ∈ archivedEffect, archived.effectId ≠ identity.effectId) ∨
      ∃ archived ∈ archivedInvocation, archived.invocationId ≠ identity.invocationId)
    .failedPrecondition "archived effect lookup has a different identity"
  sessionErrorIf (hotEffect = true ∨ hotInvocation = true ∨ archivedEffect ≠ none ∨ archivedInvocation ≠ none)
    .alreadyExists "effectId or invocationId was already used"

/-- The claim of an effect that the active turn requests. -/
def requestedClaim (identity : EffectIdentity) (request : EffectIntent) : EffectClaim where
  tenantId := state.tenantId
  userId := state.userId
  sessionId := state.sessionId
  turnId := turnId
  effectId := identity.effectId
  invocationId := identity.invocationId
  requestDigest := request.requestDigest
  service := request.service
  operation := request.operation
  replayPolicy := request.replayPolicy
  parentOperationId := request.parentOperationId
  ordinal := request.ordinal

def EffectClaim.prepare (claim : EffectClaim) (requestPayload : StoredPayload) : SessionEffect :=
  { claim with
    requestPayload := requestPayload
    phase := .prepared
    dispatchAttempt := 0
    lastDispatch := none
    externalCommitId := none
    resultRef := none
    settlement := none
    consumedAtCheckpointSequence := none
    consumedByAbort := false }

def prepareEffect (identity : Option EffectIdentity) (request : EffectIntent) (witness : Option SessionHistoryWitness) :
    Checked (SessionEffect × BlobMap) := do
  let identity ← require identity (.aggregate .invalidArgument "effect_request requires effectIdentity")
  validatedIdentifier codec identity.effectId "effectIdentity.effectId"
  validatedIdentifier codec identity.invocationId "effectIdentity.invocationId"
  sessionErrorIf (request.requestDigest ≠ codec.effectRequestDigest request.toEffectRequest) .digestMismatch
    "requestDigest does not bind the normalized effect intent"
  assertNewEffect state identity witness
  let claim := requestedClaim state turnId identity request
  parseEffectClaim codec claim
  let (payloadRef, blobs) ← storeSessionPayload codec request.payload []
  return (EffectClaim.prepare claim (.reference payloadRef), blobs)

def EngineStepKind.text : EngineStepKind → String
  | .checkpoint => "checkpoint"
  | .effectRequest => "effect_request"
  | .turnComplete => "turn_complete"
  | .turnError => "turn_error"

/-- Only an effect request allocates an effect identity. -/
def stepEffect (identity : Option EffectIdentity) (step : EngineStepResult) (witness : Option SessionHistoryWitness) :
    Checked (Option SessionEffect × BlobMap) :=
  match step with
  | .effectRequest _ request => do
    let (effect, blobs) ← prepareEffect codec state turnId identity request witness
    return (some effect, blobs)
  | _ => do
    sessionErrorIf (identity ≠ none) .invalidArgument
      (EngineStepKind.text step.kind ++ " cannot allocate an effect identity")
    return (none, [])

/-- A terminal step stores its result or its error behind a reference. -/
def storeTerminalResult (blobs : BlobMap) : Checked (Option TerminalResult × BlobMap) :=
  match step with
  | .turnComplete _ result => do
    let (ref, stored) ← storeSessionPayload codec result blobs
    return (some (.completed (.reference ref)), stored)
  | .turnError _ error =>
    match error.details with
    | none => return (some (.failed ⟨error.code, error.message, error.retryable, none⟩), blobs)
    | some details => do
      let (ref, stored) ← storeSessionPayload codec details blobs
      return (some (.failed ⟨error.code, error.message, error.retryable, some (.reference ref)⟩), stored)
  | _ => return (none, blobs)

def commitEngineStep (command : CommitEngineStepCommand)
    (context : Option SessionApplyContext) : Checked Transition := do
  let active ← requireActiveTurn state command.turnId
  validatedInteger command.transactionTime "transactionTime" 0
  let verified := verificationTime context command.transactionTime
  sessionErrorIf (active.leaseExpiresAt ≤ verified) .failedPrecondition
    "engine step commit requires transactionTime < leaseExpiresAt"
  sessionErrorIf (active.abortRequested = true) .aborted "an aborted turn cannot commit another engine step"
  let step ← validatedStep codec command.step
  let committed := step.committed
  checkpointMatchesSession state committed.toCheckpointMetadata active.turnId true
  sessionErrorIf (committed.kind ≠ .engine) .failedPrecondition "an engine step must commit an engine checkpoint"
  sessionErrorIf (committed.checkpointSequence ≠ active.checkpoint.metadata.checkpointSequence + 1)
    .failedPrecondition "checkpointSequence must increment by exactly one"
  sessionErrorIf (committed.predecessorDigest ≠ active.toTurnRecord.chainDigest? codec) .digestMismatch
    "checkpoint predecessorDigest does not match durable state"
  let (consumed, consumedEffectId) ← consumeSettlement state active command.consumedSettlementEffectId
    committed.checkpointSequence
  let (prepared, ingested) ← stepEffect codec consumed active.turnId command.effectIdentity step
    (SessionApplyContext.witness? context)
  let external ← externalizeAgentCheckpoint codec committed
  let ingested := ingested.set committed.payloadDigest committed.payloadBytes
  let preparedEffectId := prepared.map (·.effectId)
  let turn : ActiveTurn := { active with
    activeEffectId := preparedEffectId
    checkpoint := .external external
    checkpointChainDigest := some (codec.validatedCheckpointDigest committed) }
  let stepped := { consumed with activeTurn := some turn, effects := consumed.effects ++ prepared.toList }
  let outcome := StoredSessionCommandOutcome.engineStepCommitted active.turnId step.kind
    committed.checkpointSequence consumedEffectId preparedEffectId (expectedStatus step.kind)
  match ← storeTerminalResult codec step ingested with
  -- a terminal step prepares no effect, so the turn retains none
  | (some result, blobs) =>
    let terminal := turn.terminate (.external external) turn.abortRequested turn.abortReason result
    return ⟨settleActiveTurn stepped terminal, outcome, some verified, blobs⟩
  | (none, blobs) => return ⟨stepped, outcome, none, blobs⟩

/-- A new attempt replaces the durable dispatch and issues its permit. -/
def issueDispatch (deadline : Nat) (providerRouteDigest : Digest) (providerRequestId : Option String) :
    Checked (EffectDispatchMetadata × DispatchPermitClaims) := do
  sessionErrorIf (providerRouteDigest = zeroDigest) .invalidArgument "providerRouteDigest must not be the zero digest"
  validatedOptionalIdentifier codec providerRequestId "providerRequestId"
  let dispatch : EffectDispatchMetadata := { fence state with
    dispatchAttempt := effect.dispatchAttempt + 1
    deadline := deadline
    providerRequestId := providerRequestId
    providerRouteDigest := providerRouteDigest
    start := none }
  let claims := permitClaims effect.toEffectClaim dispatch
  parseDispatchPermitClaims codec claims
  return (dispatch, claims)

/-- The effect is dispatched under a new attempt. -/
def SessionEffect.dispatch (effect : SessionEffect) (dispatch : EffectDispatchMetadata) : SessionEffect :=
  { effect with
    phase := .dispatched
    dispatchAttempt := dispatch.dispatchAttempt
    lastDispatch := some dispatch }

def dispatchEffect (command : DispatchEffectCommand) (context : Option SessionApplyContext) : Checked Transition := do
  let (active, effect) ← requireActiveEffect state command.toEffectCommandBase
  sessionErrorIf (active.abortRequested = true) .aborted "an aborted turn cannot issue a dispatch permit"
  assertEffectIdentity effect command.toEffectCommandBase
  sessionErrorIf (effect.phase ≠ .prepared) .failedPrecondition "only a prepared effect can be dispatched"
  validatedInteger command.transactionTime "transactionTime" 0
  validatedInteger command.deadline "deadline" 1
  sessionErrorIf (command.deadline ≤ verificationTime context command.transactionTime ∨
      active.leaseExpiresAt < command.deadline)
    .failedPrecondition "dispatch requires transactionTime < deadline <= leaseExpiresAt"
  let (dispatch, claims) ← issueDispatch codec state effect command.deadline command.providerRouteDigest
    command.providerRequestId
  return ⟨updateEffect state effect.effectId (·.dispatch dispatch), .effectDispatched effect.effectId claims, none, []⟩

/-- A start claim repeats the attempt, the provider and the permit of the durable dispatch. -/
@[mk_iff]
structure ClaimMatchesDispatch (command : ClaimDispatchStartCommand) (effect : SessionEffect)
    (dispatch : EffectDispatchMetadata) : Prop where
  currentAttempt : command.dispatchAttempt = effect.dispatchAttempt
  dispatchAttempt : command.dispatchAttempt = dispatch.dispatchAttempt
  providerRequestId : command.providerRequestId = dispatch.providerRequestId
  providerRouteDigest : command.providerRouteDigest = dispatch.providerRouteDigest
  permit : PermitMatchesDispatch command.dispatchPermitClaims effect dispatch

instance (command : ClaimDispatchStartCommand) (effect : SessionEffect)
    (dispatch : EffectDispatchMetadata) : Decidable (ClaimMatchesDispatch command effect dispatch) :=
  decidable_of_iff _ (claimMatchesDispatch_iff command effect dispatch).symm

/-- The receipt at the expected sequence issued exactly the claimed permit. -/
def assertIssuedPermit (command : ClaimDispatchStartCommand)
    (witness : Option SessionHistoryWitness) : Checked Unit := do
  let issuing ← hotOrArchived state
    (state.commandReceipts.find? (·.committedEventSequence = command.expectedEventSequence))
    (witness.bind (·.issuingReceipt)) command.expectedEventSequence "eventSequence"
  sessionErrorIf (∃ receipt ∈ issuing, receipt.committedEventSequence ≠ command.expectedEventSequence)
    .failedPrecondition "archived issuing receipt has a different sequence"
  let issued ← require (issuing.bind (·.outcome.issuedPermit?)) (.aggregate .failedPrecondition
    "dispatch start expectedEventSequence does not identify a dispatch permit receipt")
  sessionErrorIf (issued ≠ command.dispatchPermitClaims) .failedPrecondition
    "dispatch start does not match the permit issued at expectedEventSequence"

/-- The durable claim repeats its dispatch. -/
def startMetadata (dispatch : EffectDispatchMetadata) (commandDigest : Digest)
    (claimedEventSequence : Nat) : EffectDispatchStartMetadata :=
  { dispatch.toSessionFence with
    dispatchAttempt := dispatch.dispatchAttempt
    deadline := dispatch.deadline
    providerRequestId := dispatch.providerRequestId
    providerRouteDigest := dispatch.providerRouteDigest
    commandDigest := commandDigest
    claimedEventSequence := claimedEventSequence }

def claimDispatchStart (command : ClaimDispatchStartCommand)
    (context : Option SessionApplyContext) : Checked Transition := do
  let (active, effect) ← requireActiveEffect state command.toEffectCommandBase
  sessionErrorIf (active.abortRequested = true) .aborted "an aborted turn cannot claim a dispatch start"
  validatedIdentifier codec command.workspaceId "workspaceId"
  sessionErrorIf (command.workspaceId ≠ state.workspaceId) .failedPrecondition "dispatch start workspace does not match"
  assertEffectIdentity effect command.toEffectCommandBase
  let notDispatched := "only the current dispatched effect can claim a provider start"
  sessionErrorIf (effect.phase ≠ .dispatched) .failedPrecondition notDispatched
  let dispatch ← require effect.lastDispatch (.aggregate .failedPrecondition notDispatched)
  sessionErrorIf (dispatch.start ≠ none) .idempotencyConflict "dispatch start was already claimed"
  validatedInteger command.transactionTime "transactionTime" 0
  let verified := verificationTime context command.transactionTime
  validatedInteger verified (if context = none then "transactionTime" else "host transactionTime") 0
  sessionErrorIf (dispatch.deadline ≤ verified) .failedPrecondition "dispatch start claim exceeded its deadline"
  validatedInteger command.dispatchAttempt "dispatchAttempt" 1
  validatedOptionalIdentifier codec command.providerRequestId "providerRequestId"
  sessionErrorIf (command.providerRouteDigest = zeroDigest ∨ command.commandDigest = zeroDigest)
    .invalidArgument "dispatch start digests must not be zero"
  parsePermitProof codec command.dispatchPermitClaims
  assertIssuedPermit state command (SessionApplyContext.witness? context)
  sessionErrorIf (¬ ClaimMatchesDispatch command effect dispatch) .failedPrecondition
    "dispatch start claim does not match the durable dispatch permit"
  sessionErrorIf (state.eventSequence = maxSafeInteger) .failedPrecondition "eventSequence cannot be incremented safely"
  let claimed := state.eventSequence + 1
  let start := startMetadata dispatch command.commandDigest claimed
  let permit : DispatchStartPermitClaims := ⟨command.dispatchPermitClaims, command.providerRequestId,
    command.commandDigest, claimed⟩
  return ⟨updateEffect state effect.effectId (fun current =>
      { current with lastDispatch := some { dispatch with start := some start } }),
    .dispatchStartClaimed effect.effectId true permit, none, []⟩

/-- The command names the current attempt of the effect. -/
def assertCurrentAttempt (attempt : Nat) (message : String) : Checked Unit :=
  sessionErrorIf (attempt ≠ effect.dispatchAttempt ∨ effect.lastDispatch.map (·.dispatchAttempt) ≠ some attempt)
    .staleDispatchAttempt message

/-- A turn that waited for confirmation is active again. -/
def resumeTurn : SessionAggregateState :=
  { state with activeTurn := some { active with status := .active }, status := .running }

def recordExternalCommit (command : RecordExternalCommitCommand) : Checked Transition := do
  let (active, effect) ← requireActiveEffect state command.toEffectCommandBase
  assertEffectIdentity effect command.toEffectCommandBase
  validatedInteger command.dispatchAttempt "dispatchAttempt" 1
  assertCurrentAttempt effect command.dispatchAttempt "external commit used a stale dispatch attempt"
  sessionErrorIf (effect.phase ≠ .dispatched ∧ effect.phase ≠ .blocked) .failedPrecondition
    "external commit proof requires dispatched or blocked state"
  validatedIdentifier codec command.externalCommitId "externalCommitId"
  validatedOptionalIdentifier codec command.resultRef "resultRef"
  let committed := updateEffect state effect.effectId (fun current => { current with
    phase := .externallyCommitted
    externalCommitId := some command.externalCommitId
    resultRef := command.resultRef })
  let next := if active.status = .needsConfirmation then resumeTurn committed active else committed
  return ⟨next, .externalCommitRecorded effect.effectId command.externalCommitId, none, []⟩

/-- A settlement names no attempt before the first dispatch and the current one after it. -/
def assertSettlementAttempt (attempt : Option Nat) : Checked Unit :=
  if effect.phase = .prepared then
    sessionErrorIf (attempt ≠ none) .staleDispatchAttempt "a pre-dispatch settlement cannot carry a dispatch attempt"
  else do
    let attempt ← validatedOptionalInteger attempt "dispatchAttempt" 1
    assertCurrentAttempt effect attempt "settlement used a stale dispatch attempt"

/-- A settlement arrives inline; a successful result is stored behind a reference. -/
def storeSettlement (settlement : EffectSettlement) : Checked (StoredEffectSettlement × BlobMap) :=
  match settlement with
  | .success result => do
    let normalized ← (codec.normalizeProtocolValue result).mapError .protocol
    assertEffectSettlement codec (.success (.inline normalized)) "settlement" .invalidArgument
    let (ref, blobs) ← storeSessionPayload codec normalized []
    return (.success (.reference ref), blobs)
  | other => do
    assertEffectSettlement codec other.stored "settlement" .invalidArgument
    return (other.stored, [])

def settleEffect (command : SettleEffectCommand) : Checked Transition := do
  let (active, effect) ← requireActiveEffect state command.toEffectCommandBase
  assertEffectIdentity effect command.toEffectCommandBase
  assertSettlementAttempt effect command.dispatchAttempt
  sessionErrorIf (effect.phase = .settled ∨ effect.phase = .blocked) .failedPrecondition
    ("cannot settle an effect in " ++ effect.phase.text ++ " state")
  sessionErrorIf (command.settlement.kind = .abandoned) .failedPrecondition
    "abandonment requires an explicit confirmation resolution"
  sessionErrorIf (effect.phase = .prepared ∧ command.settlement.kind = .success) .failedPrecondition
    "a prepared effect cannot succeed before a dispatch permit exists"
  let (settlement, blobs) ← storeSettlement codec command.settlement
  let settled := updateEffect state effect.effectId (fun current => { current with
    phase := .settled
    settlement := some settlement })
  let next := if active.abortRequested then settled else resumeTurn settled active
  return ⟨next, .effectSettled effect.effectId settlement, none, blobs⟩

/-- An uncertain effect waits for a decision of the user. -/
def blockEffect (effectId : String) :
    SessionAggregateState :=
  { updateEffect state effectId (fun current => { current with phase := .blocked }) with
    activeTurn := some { active with status := .needsConfirmation } }

def interruptEffect (effectId reason : String) : SessionAggregateState :=
  updateEffect state effectId (fun current => { current with
    phase := .settled
    settlement := some (.interruptedUnknown reason) })

/-- A route digest that must be present has the canonical form. -/
def requiredRouteDigest (digest : Option Digest) : Checked Digest :=
  requiredField digest "providerRouteDigest" "must be sha256: followed by 64 lowercase hexadecimal characters"

def recoverEffect (command : RecoverEffectCommand) : Checked Transition := do
  let (active, effect) ← requireActiveEffect state command.toEffectCommandBase
  assertEffectIdentity effect command.toEffectCommandBase
  sessionErrorIf (effect.phase ≠ .dispatched) .failedPrecondition "only an uncertain dispatched effect is recoverable"
  sessionErrorIf (effect.lastDispatch.map (·.start) ≠ some none) .failedPrecondition
    "a claimed dispatch start must be resolved through the external ledger"
  let blocked : Transition := ⟨blockEffect state active effect.effectId,
    .effectRecoveredBlocked effect.effectId, none, []⟩
  if active.abortRequested then
    if effect.replayPolicy = .confirm then return blocked
    else return ⟨interruptEffect state effect.effectId "uncertain dispatch after abort is not replayed",
      .effectRecoveredInterrupted effect.effectId, none, []⟩
  else
    validatedInteger command.transactionTime "transactionTime" 0
    validatedInteger command.deadline "deadline" 1
    sessionErrorIf (command.deadline ≤ command.transactionTime ∨ active.leaseExpiresAt < command.deadline)
      .failedPrecondition "recovery requires transactionTime < deadline <= leaseExpiresAt"
    match effect.replayPolicy with
    | .never => return ⟨interruptEffect state effect.effectId "uncertain dispatch is not replayable",
        .effectRecoveredInterrupted effect.effectId, none, []⟩
    | .confirm => return blocked
    | _ =>
      let route ← requiredRouteDigest command.providerRouteDigest
      let (dispatch, claims) ← issueDispatch codec state effect command.deadline route command.providerRequestId
      return ⟨updateEffect state effect.effectId (·.dispatch dispatch),
        .effectRecoveredRetry effect.effectId claims, none, []⟩

/-- The user retries a blocked effect under a new attempt. -/
def retryConfirmed (command : ResolveConfirmationCommand) : Checked Transition := do
  sessionErrorIf (active.abortRequested = true) .aborted "an aborted turn cannot retry a confirmed effect"
  let transactionTime ← validatedOptionalInteger command.transactionTime "transactionTime" 0
  let deadline ← validatedOptionalInteger command.deadline "deadline" 1
  sessionErrorIf (deadline ≤ transactionTime ∨ active.leaseExpiresAt < deadline) .failedPrecondition
    "confirmed retry requires transactionTime < deadline <= leaseExpiresAt"
  sessionErrorIf (effect.lastDispatch.map (·.start) ≠ some none) .failedPrecondition
    "a claimed dispatch attempt cannot be retried"
  let route ← requiredRouteDigest command.providerRouteDigest
  let (dispatch, claims) ← issueDispatch codec state effect deadline route command.providerRequestId
  return ⟨resumeTurn (updateEffect state effect.effectId (·.dispatch dispatch)) active,
    .confirmationRetried effect.effectId claims, none, []⟩

def resolveConfirmation (command : ResolveConfirmationCommand) : Checked Transition := do
  let (active, effect) ← requireActiveEffect state command.toEffectCommandBase
  assertEffectIdentity effect command.toEffectCommandBase
  sessionErrorIf (effect.phase ≠ .blocked ∨ effect.replayPolicy ≠ .confirm) .failedPrecondition
    "effect is not awaiting confirmation"
  match command.decision with
  | .retry => retryConfirmed codec state active effect command
  | .abandon => do
    sessionErrorIf (command.transactionTime ≠ none ∨ command.deadline ≠ none) .invalidArgument
      "abandon must not carry dispatch transaction time or deadline"
    let abandoned := updateEffect state effect.effectId (fun current => { current with
      phase := .settled
      settlement := some (.abandoned "explicitly abandoned after confirmation") })
    return ⟨resumeTurn abandoned active, .confirmationAbandoned effect.effectId, none, []⟩

def ActiveTurnStatus.aborted : ActiveTurnStatus → AbortedTurnStatus
  | .active => .active
  | .needsConfirmation => .needsConfirmation

/-- A turn without an effect is aborted at once. -/
def requestAbort (command : RequestAbortCommand) (context : Option SessionApplyContext) : Checked Transition := do
  let active ← requireActiveTurn state command.turnId
  validatedIdentifier codec command.reason "abort reason"
  validatedInteger command.transactionTime "transactionTime" 0
  match active.activeEffectId with
  | none =>
    let terminal := active.terminate active.checkpoint true (some command.reason) .aborted
    return ⟨settleActiveTurn state terminal, .abortRequested active.turnId .aborted,
      some (verificationTime context command.transactionTime), []⟩
  | some _ =>
    let requested := { active with abortRequested := true, abortReason := some command.reason }
    return ⟨{ state with activeTurn := some requested }, .abortRequested active.turnId active.status.aborted, none, []⟩

/-- The abort of a turn consumes the settlement of its effect. -/
def consumeByAbort : Checked SessionAggregateState :=
  match active.activeEffectId with
  | none => .ok state
  | some effectId => do
    let effect ← require ((effectById state effectId).filter (·.phase = .settled))
      (.aggregate .failedPrecondition "active effect is not safely settled")
    sessionErrorIf (effect.unconsumed = false) .failedPrecondition "effect settlement was already consumed"
    return updateEffect state effectId (fun settled => { settled with consumedByAbort := true })

def finalizeAbort (command : FinalizeAbortCommand) (context : Option SessionApplyContext) : Checked Transition := do
  let active ← requireActiveTurn state command.turnId
  sessionErrorIf (active.abortRequested = false) .failedPrecondition "abort was not requested"
  sessionErrorIf (active.abortReason = none) .failedPrecondition "abort reason is missing"
  validatedInteger command.transactionTime "transactionTime" 0
  let consumed ← consumeByAbort state active
  let terminal := active.terminate active.checkpoint true active.abortReason .aborted
  return ⟨settleActiveTurn consumed terminal, .abortFinalized active.turnId,
    some (verificationTime context command.transactionTime), []⟩

def rotateTurnLease (command : RotateTurnLeaseCommand) (context : Option SessionApplyContext) : Checked Transition := do
  let active ← requireActiveTurn state command.turnId
  validatedInteger command.transactionTime "transactionTime" 0
  validatedInteger command.nextTurnLeaseGeneration "nextTurnLeaseGeneration" 1
  sessionErrorIf (command.nextTurnLeaseGeneration ≠ active.turnLeaseGeneration + 1) .failedPrecondition
    "nextTurnLeaseGeneration must increment by exactly one"
  validatedInteger command.nextLeaseExpiresAt "nextLeaseExpiresAt" 1
  sessionErrorIf (command.nextLeaseExpiresAt ≤ verificationTime context command.transactionTime)
    .failedPrecondition "the rotated turn lease must expire in the future"
  let rotated := { active with
    turnLeaseGeneration := command.nextTurnLeaseGeneration
    leaseExpiresAt := command.nextLeaseExpiresAt }
  return ⟨{ state with activeTurn := some rotated },
    .turnLeaseRotated active.turnId command.nextTurnLeaseGeneration command.nextLeaseExpiresAt, none, []⟩

def rotateGenerations (command : RotateGenerationsCommand) : Checked Transition := do
  validatedInteger command.nextPlacementGeneration "nextPlacementGeneration" state.placementGeneration
  validatedInteger command.nextSandboxGeneration "nextSandboxGeneration" state.sandboxGeneration
  validatedInteger command.nextAuthorizationGeneration "nextAuthorizationGeneration" state.authorizationGeneration
  sessionErrorIf (command.nextAuthorizationGeneration = state.authorizationGeneration ∧
      command.nextEmergencyOverlayDigest ≠ state.emergencyOverlayDigest)
    .failedPrecondition "emergency overlay may change only with authorization generation"
  sessionErrorIf (command.nextPlacementGeneration = state.placementGeneration ∧
      command.nextSandboxGeneration = state.sandboxGeneration ∧
      command.nextAuthorizationGeneration = state.authorizationGeneration)
    .failedPrecondition "at least one generation must increase"
  let next := { state with
    placementGeneration := command.nextPlacementGeneration
    sandboxGeneration := command.nextSandboxGeneration
    authorizationGeneration := command.nextAuthorizationGeneration
    emergencyOverlayDigest := command.nextEmergencyOverlayDigest }
  return ⟨next, .generationsRotated command.nextPlacementGeneration command.nextSandboxGeneration
    command.nextAuthorizationGeneration command.nextEmergencyOverlayDigest, none, []⟩

def stageRuntimeRevision (command : StageRuntimeRevisionCommand) : Checked Transition := do
  let pointer := state.runtimePointer
  sessionErrorIf (pointer.candidateRevision ≠ none) .conflict "a runtime revision candidate is already staged"
  sessionErrorIf (command.candidateRevision = pointer.activeRevision ∨
      some command.candidateRevision = pointer.previousRevision)
    .failedPrecondition "a runtime revision candidate must not alias an existing pointer"
  let staged := { pointer with candidateRevision := some command.candidateRevision }
  return ⟨{ state with runtimePointer := staged },
    .runtimeRevisionStaged pointer.activeRevision command.candidateRevision pointer.switchGeneration,
    none, []⟩

def discardRuntimeCandidate (command : DiscardRuntimeCandidateCommand) : Checked Transition := do
  let pointer := state.runtimePointer
  sessionErrorIf (pointer.candidateRevision ≠ some command.expectedCandidateRevision) .conflict
    "runtime revision candidate CAS failed"
  let discarded := { pointer with candidateRevision := none }
  return ⟨{ state with runtimePointer := discarded },
    .runtimeCandidateDiscarded pointer.activeRevision command.expectedCandidateRevision
      pointer.switchGeneration command.failureReceiptDigest, none, []⟩

/-- A switch of the runtime waits until all admitted turns drain. -/
def assertDrained (operation : String) : Checked Unit := do
  sessionErrorIf (state.activeTurn ≠ none ∨ state.queuedTurns ≠ []) .failedPrecondition
    ("runtime revision " ++ operation ++ " requires all admitted turns to drain")
  sessionErrorIf (state.runtimePointer.switchGeneration = maxSafeInteger) .failedPrecondition
    "runtime revision switchGeneration cannot be incremented safely"

/-- The runtime pointer after a switch to another revision. -/
def switchRuntime (revision : Digest) : SessionAggregateState :=
  let pointer := state.runtimePointer
  { state with
    runtimePointer := ⟨revision, none, some pointer.activeRevision, pointer.switchGeneration + 1⟩
    runtimeRevisionDigest := revision }

def activateRuntimeRevision (command : ActivateRuntimeRevisionCommand) : Checked Transition := do
  let pointer := state.runtimePointer
  validatedInteger command.expectedSwitchGeneration "expectedSwitchGeneration" 1
  sessionErrorIf (pointer.activeRevision ≠ command.expectedActiveRevision ∨
      pointer.candidateRevision ≠ some command.expectedCandidateRevision ∨
      pointer.switchGeneration ≠ command.expectedSwitchGeneration)
    .conflict "runtime revision activation CAS failed"
  assertDrained state "activation"
  return ⟨switchRuntime state command.expectedCandidateRevision,
    .runtimeRevisionActivated command.expectedCandidateRevision pointer.activeRevision
      (pointer.switchGeneration + 1) command.healthReceiptDigest command.migrationReceiptDigest, none, []⟩

def rollbackRuntimeRevision (command : RollbackRuntimeRevisionCommand) : Checked Transition := do
  let pointer := state.runtimePointer
  validatedInteger command.expectedSwitchGeneration "expectedSwitchGeneration" 1
  sessionErrorIf (pointer.activeRevision ≠ command.expectedActiveRevision ∨
      pointer.previousRevision ≠ some command.expectedPreviousRevision ∨
      pointer.switchGeneration ≠ command.expectedSwitchGeneration)
    .conflict "runtime revision rollback CAS failed"
  sessionErrorIf (pointer.candidateRevision ≠ none) .failedPrecondition
    "a staged runtime revision candidate must be discarded before rollback"
  assertDrained state "rollback"
  return ⟨switchRuntime state command.expectedPreviousRevision,
    .runtimeRevisionRolledBack command.expectedPreviousRevision command.expectedActiveRevision
      (pointer.switchGeneration + 1) command.failureReceiptDigest, none, []⟩

def coreTransition (command : CoreCommand) (context : Option SessionApplyContext) : Checked Transition :=
  match command with
  | .enqueueTurn command => enqueueTurn codec state command context
  | .commitEngineStep command => commitEngineStep codec state command context
  | .dispatchEffect command => dispatchEffect codec state command context
  | .claimDispatchStart command => claimDispatchStart codec state command context
  | .recordExternalCommit command => recordExternalCommit codec state command
  | .settleEffect command => settleEffect codec state command
  | .recoverEffect command => recoverEffect codec state command
  | .resolveConfirmation command => resolveConfirmation codec state command
  | .requestAbort command => requestAbort codec state command context
  | .finalizeAbort command => finalizeAbort state command context
  | .rotateTurnLease command => rotateTurnLease state command context
  | .rotateGenerations command => rotateGenerations state command
  | .stageRuntimeRevision command => stageRuntimeRevision state command
  | .discardRuntimeCandidate command => discardRuntimeCandidate state command
  | .activateRuntimeRevision command => activateRuntimeRevision state command
  | .rollbackRuntimeRevision command => rollbackRuntimeRevision state command

end Circulusd.Session
