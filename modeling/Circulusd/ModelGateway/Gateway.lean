import Circulusd.ModelGateway.ToolCalls

/-
The configuration of the model gateway and the checks of a restored effect.
-/

namespace Circulusd.ModelGateway

open Checked Platform Protocol GatewayError

def hardMaxAuthorityBytes : Nat := 65536

def hardMaxMessages : Nat := 4096

def hardMaxMessageBytes : Nat := 1048576

def hardMaxInputBytes : Nat := 8388608

def hardMaxStreamBytes : Nat := 67108864

def hardMaxResponseBytes : Nat := 67108864

def hardMaxReasonBytes : Nat := 4096

def hardMaxPreDispatchRetries : Nat := 16

/-- Nanoseconds. -/
def defaultStreamCloseTimeout : Int := 5000000000

/-- Nanoseconds. -/
def maximumStreamCloseTimeout : Int := 300000000000

def Bounds.Valid (bounds : Bounds) : Prop :=
  Within bounds.maxAuthorityBytes hardMaxAuthorityBytes ∧ Within bounds.maxMessages hardMaxMessages ∧
    Within bounds.maxMessageBytes hardMaxMessageBytes ∧ Within bounds.maxInputBytes hardMaxInputBytes ∧
    Within bounds.maxModelBytes hardMaxIdentifierBytes ∧
    Within bounds.maxProviderIdBytes hardMaxIdentifierBytes ∧
    Within bounds.maxProviderRequestIdBytes hardMaxProviderRequestIdBytes ∧
    Within bounds.maxEventBytes hardMaxEventBytes ∧ Within bounds.maxEvents hardMaxEvents ∧
    Within bounds.maxStreamBytes hardMaxStreamBytes ∧ Within bounds.maxResponseBytes hardMaxResponseBytes ∧
    Within bounds.maxReasonBytes hardMaxReasonBytes ∧
    bounds.maxMessageBytes ≤ bounds.maxInputBytes ∧ 4 ≤ bounds.maxEvents
deriving Decidable

/-- A registered provider; a nil one has no implementation. -/
structure Registration where
  providerId : String
  providerIsNil : Bool
deriving DecidableEq

structure Gateway where
  bounds : Bounds
  streamCloseTimeout : Int
  grants : List ModelGrant
  providers : List String
deriving DecidableEq

/-- The key under which a grant is stored. -/
def ModelGrant.covers (grant : ModelGrant) (tenant user : ID) (model : String) : Prop :=
  grant.tenantId = tenant ∧ grant.userId = user ∧ grant.model = model
deriving Decidable

def lookupGrant (grants : List ModelGrant) (tenant user : ID) (model : String) : Option ModelGrant :=
  grants.find? fun grant => grant.covers tenant user model

def ModelGrant.Valid (bounds : Bounds) (grant : ModelGrant) : Prop :=
  grant.tenantId.kind = some .tenant ∧ grant.userId.kind = some .subject ∧
    identifierPattern grant.model = true ∧ grant.model.utf8ByteSize ≤ bounds.maxModelBytes ∧
    identifierPattern grant.providerId = true ∧
    grant.providerId.utf8ByteSize ≤ bounds.maxProviderIdBytes ∧
    grant.maxContextTokens ≠ 0 ∧ grant.maxOutputTokens ≠ 0 ∧ grant.maxTotalTokens ≠ 0 ∧
    grant.maxContextTokens ≤ grant.maxTotalTokens ∧ grant.maxOutputTokens ≤ grant.maxTotalTokens ∧
    grant.maxPreDispatchRetries ≤ hardMaxPreDispatchRetries ∧
    grant.maxPreDispatchRetries * 2 + 4 ≤ bounds.maxEvents
deriving Decidable

/-- One round of the loop over the configured grants. -/
def registerGrant (bounds : Bounds) (providers : List String) (grants : List ModelGrant)
    (grant : ModelGrant) : Except Refusal (List ModelGrant) := do
  refuseIf (¬ grant.Valid bounds) ⟨.invalidConfiguration, "invalid model grant"⟩
  refuseIf (grant.providerId ∉ providers) ⟨.invalidConfiguration,
    "model grant references unregistered provider " ++ quoted grant.providerId⟩
  refuseIf ((lookupGrant grants grant.tenantId grant.userId grant.model).isSome)
    ⟨.invalidConfiguration, "duplicate tenant/user/model grant"⟩
  pure (grants ++ [grant])

/-- The registry is given in the order in which the loop visits it. -/
def newGatewayConfiguration (configuration : Configuration) (providerRegistry : List Registration) :
    Except Refusal Gateway := do
  let streamCloseTimeout := if configuration.streamCloseTimeout = 0 then defaultStreamCloseTimeout
    else configuration.streamCloseTimeout
  refuseIf (streamCloseTimeout ≤ 0 ∨ maximumStreamCloseTimeout < streamCloseTimeout)
    ⟨.invalidConfiguration, "stream close timeout exceeds its supported range"⟩
  refuseIf (¬ configuration.bounds.Valid) ⟨.invalidConfiguration,
    "every input and event bound must be positive, internally consistent, and below its hard ceiling"⟩
  forEach (fun registration => refuseIf (identifierPattern registration.providerId = false ∨
      configuration.bounds.maxProviderIdBytes < registration.providerId.utf8ByteSize ∨
      registration.providerIsNil) ⟨.invalidConfiguration,
        "invalid provider registration " ++ quoted registration.providerId⟩) providerRegistry
  let providers := providerRegistry.map Registration.providerId
  refuseIf (configuration.grants = []) ⟨.invalidConfiguration, "at least one exact tenant/user/model grant is required"⟩
  let grants ← configuration.grants.foldlM (registerGrant configuration.bounds providers) []
  pure ⟨configuration.bounds, streamCloseTimeout, grants, providers⟩

theorem newGatewayConfiguration_bounds {configuration : Configuration} {registry : List Registration}
    {gateway : Gateway} (ok : newGatewayConfiguration configuration registry = .ok gateway) :
    gateway.bounds.Valid := by
  simp only [newGatewayConfiguration, steps_ok] at ok
  obtain ⟨-, valid, -, -, grants, -, rfl⟩ := ok
  exact valid

def normalizeReasoningOptions : ReasoningEffort → Except Refusal ReasoningEffort
  | .unset => pure .default
  | .other _ => .error invalidRequest
  | effort => pure effort

/-- A declared role. -/
def Role.valid : Role → Bool
  | .other _ => false
  | _ => true

/-- One message of a request, with the input bytes counted before it. The content has its own error. -/
def checkMessage (codec : Codec) (maxMessageBytes maxInputBytes : Nat) (content : GatewayError)
    (inputBytes : Nat) (message : Message) : Except Refusal Nat := do
  refuseIf (message.role.valid = false) invalidRequest
  refuseIf (message.content = "" ∨ codec.normalized message.content = false ∨
    maxMessageBytes < message.content.utf8ByteSize) content
  refuseIf (maxInputBytes - inputBytes < message.content.utf8ByteSize) inputLimit
  pure (inputBytes + message.content.utf8ByteSize)

def Gateway.validateModelRequest (gateway : Gateway) (codec : Codec) (request : ModelRequest) :
    Except Refusal Unit := do
  refuseIf (identifierPattern request.model = false ∨
      gateway.bounds.maxModelBytes < request.model.utf8ByteSize ∨ request.maxOutputTokens = 0 ∨
      request.messages = [] ∨ gateway.bounds.maxMessages < request.messages.length)
    invalidRequest
  let _ ← normalizeReasoningOptions request.reasoning
  let _ ← request.messages.foldlM (checkMessage codec gateway.bounds.maxMessageBytes
    gateway.bounds.maxInputBytes .inputLimit) 0

/-- `ModelRequestDigest`. -/
def modelRequestDigest (codec : Codec) (request : ModelRequest) : Except Refusal Digest := do
  refuseIf (identifierPattern request.model = false ∨
      hardMaxIdentifierBytes < request.model.utf8ByteSize ∨ request.maxOutputTokens = 0 ∨
      request.messages = [] ∨ hardMaxMessages < request.messages.length) invalidRequest
  let reasoning ← normalizeReasoningOptions request.reasoning
  let _ ← request.messages.foldlM (checkMessage codec hardMaxMessageBytes hardMaxInputBytes .invalidRequest) 0
  codec.structuredDigest { request with reasoning }

def FailureClass.reason : FailureClass → String
  | .preDispatch => "provider dispatch definitely not sent"
  | .providerRejected => "provider request rejected"
  | .transportUnknown => "provider dispatch outcome unknown"
  | .afterPartial => "provider stream interrupted after partial output"
  | .none | .other _ => "provider request failed"

def Gateway.normalizedFailureReason (gateway : Gateway) (failure : FailureClass) : String :=
  let limit := min gateway.bounds.maxReasonBytes gateway.bounds.maxEventBytes
  if limit < failure.reason.utf8ByteSize then String.ofList (List.replicate limit '?')
  else failure.reason

/-- The classes whose reason an effect may carry. -/
def failureClasses : List FailureClass :=
  [.preDispatch, .providerRejected, .transportUnknown, .afterPartial]

def sameAuthorityIdentity (left right : ValidatedAuthority) : Prop :=
  left.tenantId = right.tenantId ∧ left.userId = right.userId ∧ left.sessionId = right.sessionId ∧
    left.turnId = right.turnId ∧ left.effectId = right.effectId ∧
    left.invocationId = right.invocationId ∧ left.runtimeRevision = right.runtimeRevision
deriving Decidable

def Generations.Set (generations : Generations) : Prop :=
  generations.turnLease ≠ 0 ∧ generations.placement ≠ 0 ∧ generations.policy ≠ 0
deriving Decidable

/-- `validCancellationPermit`. A stored permit is bound to the revision before the one it made. -/
def ValidCancellationPermit (effect : Effect) (permit : CancellationPermit) : Prop :=
  permit.durable = true ∧ permit.proof ≠ zeroDigest ∧ permit.effectId = effect.scope.effectId ∧
    permit.invocationId = effect.scope.invocationId ∧ permit.requestDigest = effect.requestDigest ∧
    permit.providerId = effect.providerId ∧ permit.providerRequestId = effect.providerRequestId ∧
    permit.attempt = effect.attempt ∧
    (permit.effectRevision = effect.revision ∨
      effect.cancellationPermit ≠ default ∧ permit = effect.cancellationPermit ∧
        permit.effectRevision < effect.revision ∧ permit.effectRevision + 1 = effect.revision) ∧
    sameAuthorityIdentity permit.currentScope effect.scope ∧ permit.currentScope.generations.Set
deriving Decidable

/-- `validResumePermit`. -/
def ValidResumePermit (effect : Effect) (permit : ResumePermit) : Prop :=
  permit.durable = true ∧ permit.proof ≠ zeroDigest ∧ permit.originScope = effect.scope ∧
    permit.effectId = effect.scope.effectId ∧ permit.invocationId = effect.scope.invocationId ∧
    permit.requestDigest = effect.requestDigest ∧ permit.providerId = effect.providerId ∧
    permit.providerRequestId = effect.providerRequestId ∧ permit.attempt = effect.attempt ∧
    (permit.effectRevision = effect.revision ∨ effect.recoveryPermit ≠ default ∧ permit = effect.recoveryPermit) ∧
    sameAuthorityIdentity permit.currentScope effect.scope ∧ permit.currentScope.generations.Set
deriving Decidable

/-- Attempts are counted in 32 bits. -/
def EffectIdentity.attemptLimit (effect : EffectIdentity) : Nat :=
  (effect.maxPreDispatchRetries + 1) % 2 ^ 32

/-- The events that a run needs to reach an outcome. -/
def minimumTerminalEvents (durableRequestRetrieval : Bool) : State → Nat
  | .dispatching => if durableRequestRetrieval then 4 else 3
  | .dispatched | .streaming => if durableRequestRetrieval then 3 else 2
  | .cancellationPending => if durableRequestRetrieval then 2 else 1
  | .admitted | .retryPending => 1
  | _ => 0

end Circulusd.ModelGateway
