import Circulusd.ModelGateway.Gateway

/-
The checks of a restored effect, in the order of the source, and the single condition they amount to.
-/

namespace Circulusd.ModelGateway

open Checked Platform Protocol GatewayError

variable (gateway : Gateway) (codec : Codec) (effect : Effect)

def ValidScope (scope : ValidatedAuthority) : Prop :=
  scope.tenantId.kind = some .tenant ∧ scope.userId.kind = some .subject ∧
    scope.sessionId.kind = some .session ∧ scope.turnId.kind = some .turn ∧
    scope.effectId.kind = some .effect ∧ scope.invocationId.kind = some .invocation ∧
    scope.runtimeRevision.kind = some .runtimeRevision ∧ scope.generations.Set
deriving Decidable

/-- The counters of an effect against the bounds. -/
def Gateway.ValidProgress (gateway : Gateway) (effect : Effect) : Prop :=
  effect.revision ≠ 0 ∧ effect.revision = effect.eventCount + 1 ∧ effect.eventCount ≤ gateway.bounds.maxEvents ∧
    effect.eventBytes ≤ effect.eventCount * gateway.bounds.maxEventBytes ∧
    effect.streamBytes ≤ gateway.bounds.maxStreamBytes ∧ effect.attempt ≤ effect.attemptLimit
deriving Decidable

/-- The token limits that a grant leaves to an effect. -/
def ModelGrant.Permits (grant : ModelGrant) (effect : EffectIdentity) : Prop :=
  grant.providerId = effect.providerId ∧ grant.maxContextTokens = effect.maxContextTokens ∧
    grant.maxTotalTokens = effect.maxTotalTokens ∧
    grant.maxPreDispatchRetries = effect.maxPreDispatchRetries ∧
    effect.contextTokens ≤ grant.maxContextTokens ∧ effect.requestedOutputTokens ≠ 0 ∧
    effect.requestedOutputTokens ≤ grant.maxOutputTokens ∧
    effect.contextTokens ≤ grant.maxTotalTokens ∧
    effect.requestedOutputTokens ≤ grant.maxTotalTokens - effect.contextTokens ∧
    effect.request.maxOutputTokens = effect.requestedOutputTokens
deriving Decidable

def Gateway.ValidQuotaPermit (gateway : Gateway) (effect : EffectIdentity) : Prop :=
  identifierPattern effect.providerId = true ∧ effect.providerId.utf8ByteSize ≤ gateway.bounds.maxProviderIdBytes ∧
    effect.quotaPermit.durable = true ∧ ValidBoundedText effect.quotaPermit.reservationId 256 ∧
    effect.quotaPermit.tenantId = effect.scope.tenantId ∧
    effect.quotaPermit.userId = effect.scope.userId ∧
    effect.quotaPermit.effectId = effect.scope.effectId ∧
    effect.quotaPermit.invocationId = effect.scope.invocationId ∧
    effect.quotaPermit.sessionId = effect.scope.sessionId ∧
    effect.quotaPermit.turnId = effect.scope.turnId ∧
    effect.quotaPermit.runtimeRevision = effect.scope.runtimeRevision ∧
    effect.quotaPermit.generations = effect.scope.generations ∧
    effect.quotaPermit.requestDigest = effect.requestDigest ∧
    effect.quotaPermit.contextTokens = effect.contextTokens ∧
    effect.quotaPermit.outputTokens = effect.requestedOutputTokens
deriving Decidable

/-- A nested error appears by its text only. -/
def restored (check : Except Refusal Unit) : Except Refusal Unit :=
  match check with
  | .ok () => .ok ()
  | .error refusal => .error ⟨.invalidRequest, "invalid restored model request: " ++ refusal.text⟩

/-- The checks that read only what admission fixed. -/
def Gateway.validateIdentity (effect : EffectIdentity) : Except Refusal Unit := do
  restored (gateway.validateModelRequest codec effect.request)
  refuseIf (normalizeReasoningOptions effect.request.reasoning ≠ .ok effect.request.reasoning)
    ⟨.invalidRequest, "restored reasoning options are not normalized"⟩
  refuseIf (modelRequestDigest codec effect.request ≠ .ok effect.requestDigest)
    ⟨.invalidRequest, "restored model request digest mismatch"⟩
  let grant ← require (lookupGrant gateway.grants effect.scope.tenantId effect.scope.userId
    effect.request.model) invalidRequest
  refuseIf (¬ grant.Permits effect) invalidRequest
  refuseIf (¬ gateway.ValidQuotaPermit effect) quotaMismatch

/-- A failure reason is absent or the normalized reason of some class. -/
def Gateway.ValidFailureReason (gateway : Gateway) (reason : String) : Prop :=
  OptionalText reason gateway.bounds.maxReasonBytes ∧
    (reason = "" ∨ ∃ failure ∈ failureClasses, reason = gateway.normalizedFailureReason failure)
deriving Decidable

/-- The bytes of a response without its tool calls. -/
def ModelResponse.bytes (response : ModelResponse) : Nat :=
  response.text.utf8ByteSize + response.finishReason.text.utf8ByteSize

/-- A restored response has the usage that settlement charges. -/
def Gateway.ValidResponse (gateway : Gateway) (effect : EffectIdentity) (response : ModelResponse) : Prop :=
  response.text.utf8ByteSize ≤ gateway.bounds.maxResponseBytes ∧ response.finishReason.valid = true ∧
    response.finishReason.text.utf8ByteSize ≤ gateway.bounds.maxReasonBytes ∧
    response.usage = ⟨effect.contextTokens, effect.requestedOutputTokens⟩ ∧
    response.usage.inputTokens ≤ effect.maxContextTokens ∧
    response.usage.outputTokens ≤ effect.requestedOutputTokens ∧
    response.usage.inputTokens ≤ effect.maxTotalTokens ∧
    response.usage.outputTokens ≤ effect.maxTotalTokens - response.usage.inputTokens
deriving Decidable

/-- Gives the response's share of the accounted bytes. -/
def Gateway.validateResponse (effect : EffectIdentity)
    (accountedEventBytes : Nat) (response : ModelResponse) : Except Refusal Nat := do
  refuseIf (effect.contextTokens < response.usage.inputTokens) quotaMismatch
  match normalizeToolCalls codec response.toolCalls with
  | .error _ => .error invalidRequest
  | .ok (normalizedCalls, toolCallBytes) => do
    refuseIf (normalizedCalls ≠ response.toolCalls) invalidRequest
    refuseIf (¬ gateway.ValidResponse effect response) invalidRequest
    refuseIf (maxUint64 - response.bytes < toolCallBytes ∨
        gateway.bounds.maxResponseBytes < response.bytes + toolCallBytes ∨
        maxUint64 - accountedEventBytes < response.bytes + toolCallBytes)
      invalidRequest
    pure (response.bytes + toolCallBytes)

/-- What an effect of each state may carry. -/
def Effect.ShapeOf (effect : Effect) : State → Prop
  | .admitted =>
    effect.outcome = .none ∧ effect.attempt = 0 ∧ effect.eventCount = 0 ∧
      effect.providerRequestId = "" ∧ effect.partialOutput = false ∧ effect.failureReason = "" ∧
      effect.response = none ∧ effect.cancellationPermit = default ∧ effect.recoveryPermit = default
  | .dispatching =>
    effect.outcome = .none ∧ effect.attempt ≠ 0 ∧ effect.providerRequestId = "" ∧
      effect.partialOutput = false ∧ effect.failureReason = "" ∧ effect.response = none ∧
      effect.cancellationPermit = default ∧ effect.recoveryPermit = default
  | .retryPending =>
    effect.outcome = .none ∧ effect.attempt ≠ 0 ∧ effect.providerRequestId = "" ∧
      effect.partialOutput = false ∧ effect.failureReason ≠ "" ∧ effect.response = none ∧
      effect.cancellationPermit = default ∧ effect.recoveryPermit = default
  | .dispatched =>
    effect.outcome = .none ∧ effect.attempt ≠ 0 ∧ effect.providerRequestId ≠ "" ∧
      effect.partialOutput = false ∧ effect.failureReason = "" ∧ effect.response = none ∧
      effect.cancellationPermit = default ∧ effect.recoveryPermit = default
  | .streaming =>
    effect.outcome = .none ∧ effect.attempt ≠ 0 ∧ effect.providerRequestId ≠ "" ∧
      effect.partialOutput = true ∧ effect.failureReason = "" ∧ effect.response = none ∧
      effect.cancellationPermit = default
  | .cancellationPending =>
    effect.outcome = .none ∧ effect.attempt ≠ 0 ∧ effect.response = none ∧
      ¬ (effect.partialOutput = true ∧ effect.providerRequestId = "") ∧
      effect.cancellationPermit = default ∧ effect.recoveryPermit = default
  | .completed =>
    effect.outcome = .completed ∧ effect.attempt ≠ 0 ∧ effect.providerRequestId ≠ "" ∧
      effect.failureReason = "" ∧ effect.response ≠ none ∧ effect.cancellationPermit = default
  | .failed =>
    effect.outcome = .failed ∧ effect.attempt ≠ 0 ∧ effect.partialOutput = false ∧
      effect.failureReason ≠ "" ∧ effect.response = none ∧ effect.cancellationPermit = default
  | .cancelled =>
    effect.outcome = .cancelled ∧ effect.providerRequestId = "" ∧ effect.partialOutput = false ∧
      effect.failureReason = "" ∧ effect.response = none ∧ effect.recoveryPermit = default ∧
      (effect.cancellationPermit = default ∨ effect.cancellationPermit.dispatchPrevented = true)
  | .uncertain =>
    effect.outcome = .uncertain ∧ effect.attempt ≠ 0 ∧ effect.response = none ∧
      ¬ (effect.partialOutput = true ∧ effect.providerRequestId = "") ∧
      (effect.cancellationPermit = default ∨ effect.cancellationPermit.dispatchPrevented = false) ∧
      (effect.cancellationPermit = default ∨ effect.recoveryPermit = default)
  | .other _ => False

instance (effect : Effect) : (state : State) → Decidable (effect.ShapeOf state)
  | .admitted | .dispatching | .retryPending | .dispatched | .streaming | .cancellationPending
  | .completed | .failed | .cancelled | .uncertain => inferInstanceAs (Decidable (_ ∧ _))
  | .other _ => .isFalse id

/-- While the outcome is open, the events for reaching one are still left. -/
def Gateway.Reserved (gateway : Gateway) (effect : Effect) : Prop :=
  effect.outcome = .none → effect.eventCount +
    minimumTerminalEvents effect.durableRequestRetrieval effect.state ≤ gateway.bounds.maxEvents
deriving Decidable

/-- The bytes that the texts of an effect account for, its response apart. -/
def Effect.textBytes : Nat :=
  effect.streamBytes + effect.providerRequestId.utf8ByteSize + effect.failureReason.utf8ByteSize

def Gateway.accountResponse : Except Refusal Nat :=
  match effect.response with
  | none => pure 0
  | some response => gateway.validateResponse codec effect.toEffectIdentity effect.textBytes response

def Gateway.validateEffect (gateway : Gateway) (codec : Codec) (effect : Effect) : Except Refusal Unit := do
  refuseIf (¬ (ValidScope effect.scope ∧ effect.requestDigest ≠ zeroDigest ∧
    gateway.ValidProgress effect)) invalidRequest
  gateway.validateIdentity codec effect.toEffectIdentity
  refuseIf (¬ (OptionalText effect.providerRequestId gateway.bounds.maxProviderRequestIdBytes ∧
    effect.providerRequestId.utf8ByteSize ≤ gateway.bounds.maxEventBytes)) invalidRequest
  refuseIf (¬ gateway.ValidFailureReason effect.failureReason) invalidRequest
  refuseIf (effect.cancellationPermit ≠ default ∧
    ¬ ValidCancellationPermit effect effect.cancellationPermit) invalidRequest
  refuseIf (effect.recoveryPermit ≠ default ∧ ¬ ValidResumePermit effect effect.recoveryPermit) invalidRequest
  refuseIf ((effect.partialOutput = true ∧ effect.streamBytes = 0) ∨
    (effect.partialOutput = false ∧ effect.streamBytes ≠ 0)) invalidRequest
  let responseBytes ← gateway.accountResponse codec effect
  refuseIf (effect.eventBytes < effect.textBytes + responseBytes) invalidRequest
  refuseIf (maxUint64 - gateway.bounds.maxEventBytes < effect.eventBytes) invalidRequest
  refuseIf (¬ effect.ShapeOf effect.state) invalidRequest
  refuseIf (¬ gateway.Reserved effect) invalidRequest

/-- The effects that `validateEffect` accepts. -/
structure Gateway.Accepts (gateway : Gateway) (codec : Codec) (effect : Effect) : Prop where
  scope : ValidScope effect.scope
  digest : effect.requestDigest ≠ zeroDigest
  progress : gateway.ValidProgress effect
  identity : gateway.validateIdentity codec effect.toEffectIdentity = .ok ()
  providerRequest : OptionalText effect.providerRequestId gateway.bounds.maxProviderRequestIdBytes ∧
    effect.providerRequestId.utf8ByteSize ≤ gateway.bounds.maxEventBytes
  failure : gateway.ValidFailureReason effect.failureReason
  cancellation : effect.cancellationPermit ≠ default → ValidCancellationPermit effect effect.cancellationPermit
  recovery : effect.recoveryPermit ≠ default → ValidResumePermit effect effect.recoveryPermit
  streamed : effect.partialOutput = true ↔ effect.streamBytes ≠ 0
  accounted : ∃ responseBytes, gateway.accountResponse codec effect = .ok responseBytes ∧
    effect.textBytes + responseBytes ≤ effect.eventBytes
  headroom : effect.eventBytes ≤ maxUint64 - gateway.bounds.maxEventBytes
  shape : effect.ShapeOf effect.state
  reserved : gateway.Reserved effect

theorem Gateway.validateEffect_ok_iff :
    gateway.validateEffect codec effect = .ok () ↔ gateway.Accepts codec effect := by
  -- Output is partial exactly when bytes were streamed.
  have streamed : (¬ ((effect.partialOutput = true ∧ effect.streamBytes = 0) ∨
      effect.partialOutput = false ∧ effect.streamBytes ≠ 0)) ↔
      (effect.partialOutput = true ↔ effect.streamBytes ≠ 0) := by
    cases effect.partialOutput <;> simp
  simp only [validateEffect, steps_ok, streamed, not_and_not_right, not_lt]
  constructor
  · rintro ⟨⟨scope, digest, progress⟩, identity, provider, failure, cancellation, recovery, streamed,
      responseBytes, accounted, bytes, headroom, shape, reserved⟩
    exact ⟨scope, digest, progress, identity, provider, failure, cancellation, recovery, streamed,
      ⟨responseBytes, accounted, bytes⟩, headroom, shape, reserved⟩
  · rintro ⟨scope, digest, progress, identity, provider, failure, cancellation, recovery, streamed,
      ⟨responseBytes, accounted, bytes⟩, headroom, shape, reserved⟩
    exact ⟨⟨scope, digest, progress⟩, identity, provider, failure, cancellation, recovery, streamed,
      responseBytes, accounted, bytes, headroom, shape, reserved⟩

/-- The grant of an accepted effect covers its tokens. -/
theorem Gateway.validateIdentity_tokens {gateway : Gateway} {codec : Codec} {effect : EffectIdentity}
    (ok : gateway.validateIdentity codec effect = .ok ()) :
    effect.contextTokens ≤ effect.maxContextTokens ∧ effect.contextTokens ≤ effect.maxTotalTokens ∧
      effect.requestedOutputTokens ≤ effect.maxTotalTokens - effect.contextTokens := by
  simp only [validateIdentity, steps_ok] at ok
  obtain ⟨-, -, -, grant, -, permits, -⟩ := ok
  obtain ⟨-, context, total, -, inContext, -, -, inTotal, output, -⟩ := permits
  rw [← context, ← total]
  exact ⟨inContext, inTotal, output⟩

end Circulusd.ModelGateway
