import Circulusd.Session.Broker

/-
The application of a session command, the initial state and the planned archive reads.
-/

namespace Circulusd.Session

open Protocol

def applySessionCommand (codec : Codec) (state : SessionAggregateState) (command : SessionCommand)
    (context : Option SessionApplyContext) : Checked ApplySessionCommandResult :=
  match command with
  | .broker command => applySessionBrokerCommand codec state command context
  | .core command => do
    let (result, _) ← applySessionCoreCommand codec state command context none
    return result

def initialState (input : CreateSessionStateInput) : SessionAggregateState :=
  { input.toSessionRuntimeConfiguration with
    sessionId := input.sessionId
    tenantId := input.tenantId
    userId := input.userId
    workspaceId := input.workspaceId
    runtimePointer := ⟨input.runtimeRevisionDigest, none, none, 1⟩
    status := .ready
    eventSequence := 0
    publicEventSequence := 0
    nextTurnSequence := 0
    activeTurn := none
    queuedTurns := []
    terminalTurns := []
    knownTurnIds := []
    latestSettledTurn := none
    effects := []
    placementGeneration := input.placementGeneration
    sandboxGeneration := input.sandboxGeneration
    authorizationGeneration := input.authorizationGeneration
    emergencyOverlayDigest := input.emergencyOverlayDigest
    commandReceipts := []
    publicEvents := []
    turnAdmissionReceipts := []
    history := none
    broker := none }

def createSessionState (codec : Codec) (input : CreateSessionStateInput) : Checked SessionAggregateState := do
  validatedIdentifier codec input.sessionId "sessionId"
  validatedIdentifier codec input.tenantId "tenantId"
  validatedIdentifier codec input.userId "userId"
  validatedIdentifier codec input.workspaceId "workspaceId"
  validatedInteger input.adapterAbiVersion "adapterAbiVersion" 1
  validatedInteger input.checkpointSchemaVersion "checkpointSchemaVersion" 1
  validatedInteger input.placementGeneration "placementGeneration" 0
  validatedInteger input.sandboxGeneration "sandboxGeneration" 0
  validatedInteger input.authorizationGeneration "authorizationGeneration" 0
  let state := initialState input
  assertSessionInvariants codec state
  return state

/-- A smallest session; the witnesses of later results start from it. -/
def sampleInput : CreateSessionStateInput where
  runtimeRevisionDigest := 1
  policySnapshotDigest := 2
  engineKind := .lowLevel
  adapterAbiVersion := 1
  checkpointSchemaVersion := 1
  sessionId := "session"
  tenantId := "tenant"
  userId := "user"
  workspaceId := "workspace"
  placementGeneration := 1
  sandboxGeneration := 1
  authorizationGeneration := 1
  emergencyOverlayDigest := 2

def sampleGenesis (turnId : String) : AgentCheckpoint where
  kind := .genesis
  engineKind := .lowLevel
  adapterAbiVersion := 1
  checkpointSchemaVersion := 1
  runtimeRevisionDigest := 1
  sessionId := "session"
  turnId := turnId
  checkpointSequence := 0
  predecessorDigest := none
  payloadEncoding := .opaqueV1
  payloadDigest := 2
  payloadBytes := [0]

def samplePublicEnqueue (turnId : String) (expectedEventSequence : Nat) (publicAdmission : Option PublicTurnAdmission)
    (leaseExpiresAt : Nat := 100) : CoreCommand :=
  .enqueueTurn {
    commandId := "enqueue " ++ turnId
    expectedEventSequence := expectedEventSequence
    transactionTime := 0
    turnId := turnId
    input := .null
    inputDigest := 7
    genesisCheckpoint := sampleGenesis turnId
    turnLeaseGeneration := 1
    leaseExpiresAt := leaseExpiresAt
    publicAdmission := publicAdmission }

def sampleEnqueue (turnId : String) (expectedEventSequence : Nat) : CoreCommand :=
  samplePublicEnqueue turnId expectedEventSequence none

/-- Null answers to the lookups of a command and of the turn that it admits. -/
def sampleLookups (time : Nat) (commandId : String) (admitted : Option (String × Digest)) : Option SessionApplyContext :=
  some ⟨time, some ⟨some (commandId, none), admitted.map (·.2, none), admitted.map (·.1, none), none, none, none, none⟩,
    none⟩

def sampleFence (turnLeaseGeneration : Nat) : SessionFence := ⟨turnLeaseGeneration, 1, 1, 1⟩

def sampleIntent : EffectIntent where
  service := .workspace
  operation := "run"
  replayPolicy := .confirm
  payload := .null
  parentOperationId := none
  ordinal := none
  requestDigest := 9

/-- Ten public turns, of which the end of the first lets eight expire and promotes the last; then it is archived, and
one more turn is admitted under lookups in the archive. -/
def archivingCommands : List (SessionCommand × Option SessionApplyContext) :=
  let enqueue (number leaseExpiresAt sequence : Nat) : SessionCommand :=
    .core (samplePublicEnqueue (toString number) sequence (some ⟨none, none, 1, number, 4⟩) leaseExpiresAt)
  (List.range 10).map (fun number => (enqueue number (if number ∈ [0, 9] then 100 else 50) number, none)) ++
    [(.core (.requestAbort ⟨⟨⟨"abort", 10⟩, "0", sampleFence 1⟩, 60, "stop"⟩), sampleLookups 60 "abort" none),
      (enqueue 10 100 11, sampleLookups 61 "enqueue 10" (some ("10", 10)))]

/-- The engine commits the first checkpoint after the genesis. -/
def sampleEngineStep (effectIdentity : Option EffectIdentity) (step : AgentCheckpoint → EngineStepResult) : CoreCommand :=
  .commitEngineStep {
    commandId := "step"
    expectedEventSequence := 1
    turnId := "turn"
    fence := sampleFence 1
    transactionTime := 1
    consumedSettlementEffectId := none
    effectIdentity := effectIdentity
    step := step { sampleGenesis "turn" with
      kind := .engine, checkpointSequence := 1, predecessorDigest := some 1 } }

/-- The step asks for the effect `effect`. -/
def sampleStep : CoreCommand := sampleEngineStep (some ⟨"effect", "invocation"⟩) (.effectRequest · sampleIntent)

def sampleEffectBase (commandId : String) (expectedEventSequence turnLeaseGeneration : Nat) : EffectCommandBase :=
  ⟨⟨⟨commandId, expectedEventSequence⟩, "turn", sampleFence turnLeaseGeneration⟩, "effect", "invocation", 9⟩

def sampleDispatch : CoreCommand :=
  .dispatchEffect ⟨sampleEffectBase "dispatch" 2 1, 2, 50, none, 3⟩

/-- The claim shows the permit of `sampleDispatch`, under a lease of its own. -/
def sampleClaim (turnLeaseGeneration : Nat) : CoreCommand :=
  .claimDispatchStart {
    sampleEffectBase "claim" 3 turnLeaseGeneration with
    workspaceId := "workspace"
    transactionTime := 3
    dispatchAttempt := 1
    providerRequestId := none
    providerRouteDigest := 3
    dispatchPermitClaims := {
      sampleIntent, sampleInput, sampleFence 1 with
      turnId := "turn"
      effectId := "effect"
      invocationId := "invocation"
      dispatchAttempt := 1
      providerRouteDigest := 3
      deadline := 50 }
    commandDigest := 6 }

end Circulusd.Session
