import Circulusd.Session.BrokerValidation

/-
The checks of a core command before it changes the state: its shape, the three kinds of
replay, the expected event sequence and the fence.
-/

namespace Circulusd.Session

open Checked Protocol

variable (codec : Codec) (state : SessionAggregateState) (command : CoreCommand)
variable (witness : Option SessionHistoryWitness)

/-- A broker session accepts these commands only together with a broker proof. -/
def CoreCommand.brokerOwned : CoreCommand → Bool
  | .commitEngineStep _ => true
  | .dispatchEffect _ => true
  | .claimDispatchStart _ => true
  | .recordExternalCommit _ => true
  | .settleEffect _ => true
  | .recoverEffect _ => true
  | .resolveConfirmation _ => true
  | _ => false

def validateCoreCommand (viaBroker : Bool) : Checked Unit := do
  validateSessionState codec state
  sessionErrorIf (viaBroker = false ∧ state.broker ≠ none ∧ command.brokerOwned = true) .failedPrecondition
    "broker-owned Session boundaries require a persisted broker proof"
  validatedIdentifier codec command.commandId "commandId"
  validatedInteger command.expectedEventSequence "expectedEventSequence" 0
  let _ ← validatedNormalizedValue codec (codec.commandValue command) "command"
    sessionCommandMaxEncodedBytes false .invalidArgument
  return ()

/-- The input of a turn in normal form, bound by its digest. -/
def validatedInput (command : EnqueueTurnCommand) : Checked NormalizedValue := do
  let input ← validatedNormalizedValue codec command.input "input" sessionValueMaxEncodedBytes false .invalidArgument
  sessionErrorIf (codec.turnInputDigest input ≠ command.inputDigest) .digestMismatch
    "inputDigest does not bind the normalized turn input"
  return input

def CoreCommand.admission? : CoreCommand → Option (EnqueueTurnCommand × PublicTurnAdmission)
  | .enqueueTurn command => command.publicAdmission.map (command, ·)
  | _ => none

/-- A public admission returns the turn that its idempotency key admitted before. -/
def admissionReplay : Checked (Option StoredSessionCommandOutcome) :=
  match command.admission? with
  | none => .ok none
  | some (enqueue, admission) => do
    validatePublicAdmissionAuthority codec state admission
    let _ ← validatedInput codec enqueue
    let found ← hotOrArchived state
      (state.turnAdmissionReceipts.find? (·.idempotencyKeyDigest = admission.idempotencyKeyDigest))
      (witness.bind (·.admission)) admission.idempotencyKeyDigest "idempotencyKeyDigest"
    match found with
    | none => return none
    | some receipt => do
      sessionErrorIf (receipt.idempotencyKeyDigest ≠ admission.idempotencyKeyDigest) .failedPrecondition
        "archived admission receipt has a different key"
      sessionErrorIf (receipt.requestDigest ≠ admission.requestDigest ∨ receipt.inputDigest ≠ enqueue.inputDigest)
        .idempotencyConflict "public idempotency key was reused with a different semantic request"
      return some (.turnEnqueued receipt.turnId receipt.turnSequence receipt.activated)

/-- The permit that an outcome issued for a dispatch attempt. -/
def StoredSessionCommandOutcome.issuedPermit? : StoredSessionCommandOutcome → Option DispatchPermitClaims
  | .effectDispatched _ claims => some claims
  | .effectRecoveredRetry _ claims => some claims
  | .confirmationRetried _ claims => some claims
  | _ => none

/-- A stored capability belongs to the active effect. -/
def CapabilityActive (active : ActiveTurn) (effect : Option SessionEffect) (claims : DispatchPermitClaims) :
    Prop :=
  active.activeEffectId = some claims.effectId ∧
    ∃ present ∈ effect, present.turnId = active.turnId ∧ present.phase = .dispatched
deriving Decidable

/-- A stored capability names the current attempt. -/
def CapabilityAttempt (effect : Option SessionEffect) (claims : DispatchPermitClaims) : Prop :=
  ∃ present ∈ effect, present.dispatchAttempt = claims.dispatchAttempt ∧
    ∃ dispatch ∈ present.lastDispatch, dispatch.dispatchAttempt = claims.dispatchAttempt
deriving Decidable

/-- A stored capability repeats the durable dispatch. -/
def CapabilityDurable (effect : Option SessionEffect) (claims : DispatchPermitClaims) : Prop :=
  ∃ present ∈ effect, present.requestDigest = claims.requestDigest ∧ present.invocationId = claims.invocationId ∧
    ∃ dispatch ∈ present.lastDispatch, dispatch.deadline = claims.deadline ∧
      dispatch.toSessionFence = claims.toSessionFence ∧
      dispatch.providerRouteDigest = claims.providerRouteDigest
deriving Decidable

def assertCapabilityCurrent (claims : DispatchPermitClaims) : Checked Unit := do
  let active ← require state.activeTurn
    (.aggregate .staleGeneration "a dispatch capability receipt cannot cross a generation rotation")
  sessionErrorIf (claims.toSessionFence ≠ fence state) .staleGeneration
    "a dispatch capability receipt cannot cross a generation rotation"
  sessionErrorIf (active.abortRequested = true) .aborted "an aborted turn cannot replay a dispatch capability"
  let effect := effectById state claims.effectId
  sessionErrorIf (¬ CapabilityActive active effect claims) .failedPrecondition
    "the dispatch capability receipt is no longer active"
  sessionErrorIf (¬ CapabilityAttempt effect claims) .staleDispatchAttempt
    "the dispatch capability receipt names an older attempt"
  sessionErrorIf (¬ CapabilityDurable effect claims) .failedPrecondition
    "the dispatch capability receipt does not match durable dispatch metadata"

/-- The effect of a start receipt still carries the exact claim. -/
def StartReceiptCurrent (effect : Option SessionEffect) (permit : DispatchStartPermitClaims) : Prop :=
  (∃ claim, command = .claimDispatchStart claim ∧ claim.workspaceId = state.workspaceId) ∧
    ∃ present ∈ effect, ∃ dispatch ∈ present.lastDispatch, ∃ start ∈ dispatch.start,
      StartPermitMatches permit present dispatch start

def CoreCommand.claimedWorkspace? : CoreCommand → Option String
  | .claimDispatchStart command => some command.workspaceId
  | _ => none

theorem CoreCommand.claimedWorkspace?_eq_some_iff (workspaceId : String) :
    command.claimedWorkspace? = some workspaceId ↔
      ∃ claim, command = .claimDispatchStart claim ∧ claim.workspaceId = workspaceId := by
  cases command <;> simp [CoreCommand.claimedWorkspace?]

instance (state : SessionAggregateState) (command : CoreCommand) (effect : Option SessionEffect)
    (permit : DispatchStartPermitClaims) : Decidable (StartReceiptCurrent state command effect permit) :=
  decidable_of_iff (command.claimedWorkspace? = some state.workspaceId ∧
    ∃ present ∈ effect, ∃ dispatch ∈ present.lastDispatch, ∃ start ∈ dispatch.start,
      StartPermitMatches permit present dispatch start)
    (by rw [StartReceiptCurrent, CoreCommand.claimedWorkspace?_eq_some_iff])

def startReceiptReplay (effectId : String) (permit : DispatchStartPermitClaims) :
    Checked StoredSessionCommandOutcome := do
  let effect ← hotOrArchived state (effectById state effectId) (witness.bind (·.effect)) effectId "effectId"
  parseDispatchPermitClaims codec permit.dispatchPermitClaims
  sessionErrorIf (¬ StartReceiptCurrent state command effect permit) .failedPrecondition
    "dispatch start receipt does not match durable effect state"
  return .dispatchStartClaimed effectId false permit

/-- The outcome that a receipt with the right identity and digest replays. -/
def replayOutcome (outcome : StoredSessionCommandOutcome) : Checked StoredSessionCommandOutcome :=
  match outcome.startClaim? with
  | some (effectId, permit) => startReceiptReplay codec state command witness effectId permit
  | none => do
    whenPresent outcome.issuedPermit? (assertCapabilityCurrent state)
    return outcome

/-- A reused command identity returns the stored outcome or a conflict. -/
def receiptReplay : Checked (Option StoredSessionCommandOutcome) := do
  let found ← hotOrArchived state (state.commandReceipts.find? (·.commandId = command.commandId))
    (witness.bind (·.command)) command.commandId "commandId"
  match found with
  | none => return none
  | some receipt => do
    sessionErrorIf (receipt.commandId ≠ command.commandId) .failedPrecondition
      "archived command receipt has a different identity"
    assertSessionCommandOutcome codec receipt.outcome "archived command outcome" .failedPrecondition
    sessionErrorIf (receipt.commandDigest ≠ codec.commandDigest command) .idempotencyConflict
      ("commandId " ++ command.commandId ++ " was reused with a different digest")
    let outcome ← replayOutcome codec state command witness receipt.outcome
    return some outcome

/-- A malformed permit is a failed precondition of a start claim. -/
def parsePermitProof (claims : DispatchPermitClaims) : Checked Unit :=
  match parseDispatchPermitClaims codec claims with
  | .ok () => .ok ()
  | .error _ => sessionError .failedPrecondition "dispatch start used a malformed permit proof"

/-- Each generation of a received fence is checked and compared in turn. -/
def assertFence (received current : SessionFence) (code : SessionAggregateErrorCode)
    (message : String → String) : Checked Unit := do
  validatedInteger received.turnLeaseGeneration "fence.turnLeaseGeneration" 0
  sessionErrorIf (received.turnLeaseGeneration ≠ current.turnLeaseGeneration) code (message "turnLeaseGeneration")
  validatedInteger received.placementGeneration "fence.placementGeneration" 0
  sessionErrorIf (received.placementGeneration ≠ current.placementGeneration) code (message "placementGeneration")
  validatedInteger received.sandboxGeneration "fence.sandboxGeneration" 0
  sessionErrorIf (received.sandboxGeneration ≠ current.sandboxGeneration) code (message "sandboxGeneration")
  validatedInteger received.authorizationGeneration "fence.authorizationGeneration" 0
  sessionErrorIf (received.authorizationGeneration ≠ current.authorizationGeneration) code
    (message "authorizationGeneration")

/-- The start claim of a hot effect with its dispatch. -/
def startedDispatch? (effectId : String) :
    Option (SessionEffect × EffectDispatchMetadata × EffectDispatchStartMetadata) := do
  let effect ← effectById state effectId
  let dispatch ← effect.lastDispatch
  let start ← dispatch.start
  return (effect, dispatch, start)

/-- A repeated claim carries the exact proof of the durable one. -/
@[mk_iff]
structure ClaimProofMatches (command : ClaimDispatchStartCommand) (effect : SessionEffect)
    (dispatch : EffectDispatchMetadata) (start : EffectDispatchStartMetadata) : Prop where
  nonzero : command.commandDigest ≠ zeroDigest
  providerRouteDigest : command.providerRouteDigest = dispatch.providerRouteDigest
  providerRequestId : command.providerRequestId = dispatch.providerRequestId
  dispatchAttempt : command.dispatchAttempt = dispatch.dispatchAttempt
  currentAttempt : command.dispatchAttempt = effect.dispatchAttempt
  invocationId : command.invocationId = effect.invocationId
  requestDigest : command.requestDigest = effect.requestDigest
  permit : PermitMatchesDispatch command.dispatchPermitClaims effect dispatch
  commandDigest : command.commandDigest = start.commandDigest

instance (command : ClaimDispatchStartCommand) (effect : SessionEffect)
    (dispatch : EffectDispatchMetadata) (start : EffectDispatchStartMetadata) :
    Decidable (ClaimProofMatches command effect dispatch start) :=
  decidable_of_iff _ (claimProofMatches_iff command effect dispatch start).symm

/-- The claimed effect is still dispatched in the active turn. -/
def ClaimStillActive (command : ClaimDispatchStartCommand) (effect : SessionEffect) : Prop :=
  ∃ active ∈ state.activeTurn, active.activeEffectId = some effect.effectId ∧
    active.turnId = command.turnId ∧ effect.phase = .dispatched ∧ command.workspaceId = state.workspaceId
deriving Decidable

/-- A claim of a started attempt under another command identity is a replay or a conflict. -/
def claimReplay (command : ClaimDispatchStartCommand) : Checked (Option StoredSessionCommandOutcome) :=
  match startedDispatch? state command.effectId with
  | none => .ok none
  | some (effect, dispatch, start) => do
    parsePermitProof codec command.dispatchPermitClaims
    validatedOptionalIdentifier codec command.providerRequestId "providerRequestId"
    validatedInteger command.dispatchAttempt "dispatchAttempt" 1
    validatedInteger command.transactionTime "transactionTime" 0
    validatedIdentifier codec command.workspaceId "workspaceId"
    let moved := "dispatch start replay is no longer on the active dispatch fence"
    sessionErrorIf (¬ ClaimStillActive state command effect) .failedPrecondition moved
    assertFence command.fence (fence state) .failedPrecondition (fun _ => moved)
    sessionErrorIf (¬ ClaimProofMatches command effect dispatch start) .idempotencyConflict
      "dispatch start attempt was already claimed with another exact proof"
    return some (.dispatchStartClaimed effect.effectId false {
      dispatchPermitClaims := command.dispatchPermitClaims
      providerRequestId := command.providerRequestId
      commandDigest := command.commandDigest
      claimedEventSequence := start.claimedEventSequence })

/-- The three replay mechanisms are tried in order. -/
def coreReplay : Checked (Option StoredSessionCommandOutcome) := do
  match ← admissionReplay codec state command witness with
  | some outcome => return some outcome
  | none =>
    match ← receiptReplay codec state command witness with
    | some outcome => return some outcome
    | none =>
      match command with
      | .claimDispatchStart claim => claimReplay codec state claim
      | _ => return none

/-- A claim is ordered by its issuing receipt, every other command by the event sequence. -/
def CoreCommand.sequenced : CoreCommand → Bool
  | .claimDispatchStart _ => false
  | _ => true

/-- A turn that waits for confirmation accepts only these commands. -/
def CoreCommand.allowedWhileConfirming : CoreCommand → Bool
  | .resolveConfirmation _ => true
  | .requestAbort _ => true
  | .recordExternalCommit _ => true
  | .rotateTurnLease _ => true
  | _ => false

def assertActiveFence (base : ActiveTurnCommandBase) : Checked Unit := do
  let active ← require (state.activeTurn.filter (·.turnId = base.turnId))
    (.aggregate .notFound ("turn " ++ base.turnId ++ " is not active"))
  assertFence base.fence (fence state) .staleGeneration (fun name => name ++ " is stale")
  sessionErrorIf (active.status = .needsConfirmation ∧ command.allowedWhileConfirming = false)
    .needsConfirmation "the active effect requires explicit confirmation"

def coreGate : Checked Unit := do
  sessionErrorIf (command.sequenced = true ∧ command.expectedEventSequence ≠ state.eventSequence) .conflict
    ("expected eventSequence " ++ toString command.expectedEventSequence ++ ", current is " ++
      toString state.eventSequence)
  whenPresent command.activeTurnBase? (assertActiveFence state command)

end Circulusd.Session
