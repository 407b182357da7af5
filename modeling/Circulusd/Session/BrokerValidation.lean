import Circulusd.Session.History

/-
The authority and the shape of a broker command.
-/

namespace Circulusd.Session

open Checked Protocol

/-- A grant authorizes exactly one durable engine boundary. -/
def parseBrokerBudget (budget : SessionBrokerBudget) : Checked Unit := do
  brokerInteger budget.maximumEvents "maximumEvents" 1
  brokerInteger budget.maximumEphemeralBytes "maximumEphemeralBytes" 1
  brokerInteger budget.maximumWallClockMs "maximumWallClockMs" 1
  sessionErrorIf (budget.maximumEvents ≠ 1) .invalidArgument
    "a broker grant authorizes exactly one durable engine boundary"

def parseSessionBrokerPolicy (policy : SessionBrokerPolicy) : Checked Unit := do
  parseBrokerBudget policy.engineStepLimits
  brokerInteger policy.preparationTTLms "preparationTTLms" 1

def parseSessionBrokerAuthority (codec : Codec) (authority : SessionBrokerAuthority) : Checked Unit := do
  brokerIdentifier codec authority.tenantId "tenantId"
  brokerIdentifier codec authority.workspaceId "workspaceId"
  brokerIdentifier codec authority.sessionId "sessionId"
  brokerIdentifier codec authority.actorSubjectId "actorSubjectId"
  brokerInteger authority.expectedAuthorizationGeneration "expectedAuthorizationGeneration" 0

def assertSessionBrokerAuthority (codec : Codec) (state : SessionAggregateState)
    (authority : SessionBrokerAuthority) : Checked Unit := do
  parseSessionBrokerAuthority codec authority
  sessionErrorIf (authority.tenantId ≠ state.tenantId ∨ authority.workspaceId ≠ state.workspaceId ∨
      authority.sessionId ≠ state.sessionId ∨ authority.actorSubjectId ≠ state.userId)
    .permissionDenied "broker authority belongs to another Session or principal"
  sessionErrorIf (authority.expectedAuthorizationGeneration ≠ state.authorizationGeneration)
    .staleGeneration "broker authority is stale"

def parseBrokerSnapshot (codec : Codec) (snapshot : SessionBrokerSnapshot) : Checked Unit := do
  brokerIdentifier codec snapshot.turnId "snapshot.turnId"
  brokerInteger snapshot.eventSequence "snapshot.eventSequence" 0
  brokerFence snapshot.fence
  whenPresent snapshot.activeEffect (fun effect => do
    brokerIdentifier codec effect.effectId "effectId"
    brokerIdentifier codec effect.invocationId "invocationId"
    brokerInteger effect.dispatchAttempt "dispatchAttempt" 0)

def parseBrokerEffectKey (codec : Codec) (key : SessionBrokerEffectKey) : Checked Unit := do
  brokerIdentifier codec key.turnId "turnId"
  brokerIdentifier codec key.effectId "effectId"
  brokerIdentifier codec key.invocationId "invocationId"

/-- The normalized and encoded form of a value stays within a byte limit. -/
def encodeBounded (codec : Codec) (value : NormalizedValue) (maxBytes : Nat) : Checked Unit := do
  let normalized ← (codec.normalizeProtocolValue value).mapError .protocol
  (codec.encodesWithin normalized maxBytes).mapError .protocol

def brokerPublicError (codec : Codec) (error : SessionBrokerPublicError) : Checked Unit := do
  brokerInteger error.code "error.code" 0
  brokerInteger error.retryAfterMs "error.retryAfterMs" 0
  brokerOptionalIdentifier codec error.requestId "error.requestId"
  encodeBounded codec (codec.publicErrorValue error) sessionValueMaxEncodedBytes

/-- The effect key of an operation on an effect. -/
def SessionBrokerMutation.key? : SessionBrokerMutation → Option SessionBrokerEffectKey
  | .acquireStep _ => none
  | .commitStep _ => none
  | .dispatch body => some body.key
  | .claimStart body => some body.key
  | .confirm body => some body.key
  | .settle body => some body.key
  | .block body => some body.key
  | .prepareRetry body => some body.key
  | .settleRecovery body => some body.key

/-- The caller names its operation, except for a start claim. -/
def SessionBrokerMutation.operationKey? : SessionBrokerMutation → Option String
  | .acquireStep body => some body.operationKey
  | .commitStep body => some body.operationKey
  | .dispatch body => some body.operationKey
  | .claimStart _ => none
  | .confirm body => some body.operationKey
  | .settle body => some body.operationKey
  | .block body => some body.operationKey
  | .prepareRetry body => some body.operationKey
  | .settleRecovery body => some body.operationKey

def SessionBrokerMutation.externalCommitId? : SessionBrokerMutation → Option String
  | .confirm body => some body.externalCommitId
  | .settle body => some body.externalCommitId
  | _ => none

def SessionBrokerMutation.providerRequestId? : SessionBrokerMutation → Option String
  | .dispatch body => body.providerRequestId
  | .confirm body => body.providerRequestId
  | _ => none

def SessionBrokerMutation.resultRef? : SessionBrokerMutation → Option String
  | .confirm body => body.resultRef
  | .settle body => body.resultRef
  | _ => none

/-- The bounded integers of a body with their minimums, in the order of their checks. -/
def SessionBrokerMutation.integers : SessionBrokerMutation → List (String × Nat × Nat)
  | .acquireStep body => [("nowUnixMs", body.nowUnixMs, 0)]
  | .commitStep body => [("nowUnixMs", body.nowUnixMs, 0)]
  | .dispatch body => [("nowUnixMs", body.nowUnixMs, 0), ("deadlineUnixMs", body.deadlineUnixMs, 1)]
  | .claimStart body => [("nowUnixMs", body.nowUnixMs, 0)]
  | .confirm body => [("dispatchAttempt", body.dispatchAttempt, 1)]
  | .settle body => [("dispatchAttempt", body.dispatchAttempt, 1)]
  | .block _ => []
  | .prepareRetry body => [("nowUnixMs", body.nowUnixMs, 0), ("deadlineUnixMs", body.deadlineUnixMs, 1)]
  | .settleRecovery _ => []

def SessionBrokerMutation.permitBytes : SessionBrokerMutation → Option (String × Bytes)
  | .commitStep body => some ("permitOpaque", body.permitOpaque)
  | .dispatch body => some ("preparationOpaque", body.preparationOpaque)
  | .claimStart body => some ("dispatchOpaque", body.dispatchOpaque)
  | _ => none

/-- The public error of a body, under `error` or `reason`. -/
def SessionBrokerMutation.publicError? : SessionBrokerMutation → Option SessionBrokerPublicError
  | .settle body => body.error
  | .block body => some body.reason
  | .settleRecovery body => some body.error
  | _ => none

def parseSessionBrokerRequest (codec : Codec) (request : SessionBrokerMutation) : Checked Unit := do
  encodeBounded codec (codec.brokerRequestValue request) sessionCommandMaxEncodedBytes
  parseBrokerSnapshot codec request.snapshot
  whenPresent request.key? (parseBrokerEffectKey codec)
  brokerOptionalIdentifier codec request.operationKey? "operationKey"
  brokerOptionalIdentifier codec request.externalCommitId? "externalCommitId"
  brokerOptionalIdentifier codec request.providerRequestId? "providerRequestId"
  brokerOptionalIdentifier codec request.resultRef? "resultRef"
  forEach (fun (field, value, minimum) => brokerInteger value field minimum) request.integers
  whenPresent request.permitBytes (fun (field, value) => brokerOpaque value field)
  match request with
  | .acquireStep body => parseBrokerBudget body.budget
  | .commitStep body => do
    let _ ← parseEngineStepResult codec body.step
    return ()
  | _ => .ok ()
  whenPresent request.publicError? (brokerPublicError codec)

/-- Archive planning and application share this check of the command shape. -/
def validateSessionBrokerCommandShape (codec : Codec) (command : SessionBrokerCommand) : Checked Unit := do
  parseSessionBrokerAuthority codec command.authority
  parseSessionBrokerRequest codec command.request
  brokerIdentifier codec command.commandId "commandId"
  brokerIdentifier codec command.operationKey "operationKey"
  brokerInteger command.expectedEventSequence "expectedEventSequence" 0
  parseSessionBrokerPolicy command.host.policy
  brokerOpaque command.host.opaqueBytes "host opaque"
  brokerOpaque command.host.secondaryOpaque "host secondaryOpaque"
  brokerIdentifier codec command.host.effectId "host effectId"
  brokerIdentifier codec command.host.invocationId "host invocationId"

end Circulusd.Session
