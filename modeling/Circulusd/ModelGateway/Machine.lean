import Circulusd.ModelGateway.Validate

/-
One transition of the model gateway: the check of the event, the move of the effect, and the count
of the event. No provider is called.
-/

namespace Circulusd.ModelGateway

open Checked Platform GatewayError

variable (gateway : Gateway) (codec : Codec) (effect : Effect) (event : Event) (eventBytes : Nat)

/-- A completed response is checked for its texts, then its tool calls are normalized. -/
def Gateway.checkResponse (response : ModelResponse) : Except Refusal (Event × Nat) := do
  refuseIf (¬ (response.text.utf8ByteSize ≤ gateway.bounds.maxResponseBytes ∧ response.finishReason.valid = true ∧
      response.finishReason.text.utf8ByteSize ≤ gateway.bounds.maxReasonBytes))
    invalidRequest
  refuseIf (maxUint64 - response.finishReason.text.utf8ByteSize < response.text.utf8ByteSize) eventLimit
  let (normalizedCalls, toolCallBytes) ← normalizeToolCalls codec response.toolCalls
  refuseIf (maxUint64 - response.bytes < toolCallBytes) eventLimit
  refuseIf (gateway.bounds.maxResponseBytes < response.bytes + toolCallBytes) eventLimit
  pure ({ event with response := some { response with toolCalls := normalizedCalls } }, response.bytes + toolCallBytes)

/-- The reason of a failure is replaced by the one of its class. -/
def Gateway.reported : Event :=
  { event with reason := gateway.normalizedFailureReason event.failure }

/-- Gives the normalized event and the bytes it counts for. -/
def Gateway.checkEvent : Except Refusal (Event × Nat) :=
  match event.kind with
  | .beginDispatch | .cancelRequested => do
    refuseIf (¬ (event.providerRequestId = "" ∧ event.delta = "" ∧ event.response = none ∧
        event.failure = .none ∧ event.reason = "" ∧ event.dispatchPrevented = false ∧
        event.cancellation = default ∧ event.recovery = default)) invalidRequest
    pure (event, 0)
  | .providerAccepted => do
    refuseIf (¬ (ValidBoundedText event.providerRequestId gateway.bounds.maxProviderRequestIdBytes ∧
        event.delta = "" ∧ event.response = none ∧ event.failure = .none ∧ event.reason = "" ∧
        event.dispatchPrevented = false ∧ event.cancellation = default ∧ event.recovery = default))
      invalidRequest
    pure (event, event.providerRequestId.utf8ByteSize)
  | .delta => do
    refuseIf (¬ (event.delta ≠ "" ∧ event.providerRequestId = "" ∧ event.response = none ∧
        event.failure = .none ∧ event.reason = "" ∧ event.dispatchPrevented = false ∧
        event.cancellation = default)) invalidRequest
    pure (event, event.delta.utf8ByteSize)
  | .responseCompleted => do
    let response ← require event.response invalidRequest
    refuseIf (¬ (event.providerRequestId = "" ∧ event.delta = "" ∧ event.failure = .none ∧
        event.reason = "" ∧ event.dispatchPrevented = false ∧ event.cancellation = default))
      invalidRequest
    gateway.checkResponse codec event response
  | .dispatchFailed => do
    refuseIf (event.failure ∉ failureClasses) invalidRequest
    refuseIf (¬ (ValidBoundedText event.reason gateway.bounds.maxReasonBytes ∧
        event.providerRequestId = "" ∧ event.delta = "" ∧ event.response = none ∧
        event.dispatchPrevented = false ∧ event.cancellation = default)) invalidRequest
    pure (gateway.reported event, (gateway.reported event).reason.utf8ByteSize)
  | .cancellationResolved => do
    refuseIf (¬ (event.providerRequestId = "" ∧ event.delta = "" ∧ event.response = none ∧
        event.failure = .none ∧ event.reason = "" ∧ event.recovery = default))
      invalidRequest
    pure (event, 0)
  | .other _ => .error invalidRequest

/-- A recovery event carries a resume permit. -/
def Event.Recovers (event : Event) : Prop :=
  event.recovery ≠ default
deriving Decidable

/-- An observation of the provider reopens an uncertain effect under its permit. -/
def Effect.recovered : Effect :=
  { effect with
    recoveryPermit := if event.Recovers then event.recovery else effect.recoveryPermit
    outcome := if event.Recovers then .none else effect.outcome
    failureReason := if event.Recovers then "" else effect.failureReason }

/-- The states in which the provider is heard. -/
def Effect.Observing (effect : Effect) (event : Event) : Prop :=
  effect.state = .dispatched ∨ effect.state = .streaming ∨ effect.state = .uncertain ∧ event.Recovers
deriving Decidable

/-- A move that commands nothing. -/
def Transition.to : Transition where
  effect := effect
  dispatch := none
  cancel := none

def Effect.beginDispatch : Except Refusal Transition := do
  refuseIf (effect.state ≠ .admitted ∧ effect.state ≠ .retryPending) invalidTransition
  refuseIf (effect.attemptLimit ≤ effect.attempt) invalidTransition
  let next := { effect with attempt := effect.attempt + 1, state := .dispatching, failureReason := "" }
  pure {
    effect := next
    dispatch := some {
      providerId := next.providerId
      scope := next.scope
      effectId := next.scope.effectId
      invocationId := next.scope.invocationId
      requestDigest := next.requestDigest
      quotaPermit := next.quotaPermit
      request := next.request
      attempt := next.attempt }
    cancel := none }

def Effect.accept : Except Refusal Transition := do
  refuseIf (effect.state ≠ .dispatching ∨ effect.providerRequestId ≠ "" ∨ effect.partialOutput = true) invalidTransition
  pure (.to { effect with providerRequestId := event.providerRequestId, state := .dispatched })

def Gateway.stream : Except Refusal Transition := do
  refuseIf (¬ effect.Observing event) invalidTransition
  refuseIf (gateway.bounds.maxStreamBytes - effect.streamBytes < eventBytes) eventLimit
  let next := effect.recovered event
  pure (.to { next with
    streamBytes := effect.streamBytes + eventBytes
    partialOutput := true
    state := .streaming })

def Effect.complete : Except Refusal Transition := do
  refuseIf (¬ effect.Observing event) invalidTransition
  let next := effect.recovered event
  -- The check of the event made sure of a response.
  let response ← require event.response invalidRequest
  refuseIf (next.contextTokens < response.usage.inputTokens) quotaMismatch
  refuseIf (next.maxContextTokens < response.usage.inputTokens ∨
      next.requestedOutputTokens < response.usage.outputTokens ∨
      next.maxTotalTokens < response.usage.inputTokens ∨
      next.maxTotalTokens - response.usage.inputTokens < response.usage.outputTokens)
    tokenLimit
  pure (.to { next with
    response := some { response with usage := ⟨next.contextTokens, next.requestedOutputTokens⟩ }
    state := .completed
    outcome := .completed })

/-- A dispatch failure keeps the permit of the recovery that reported it. -/
def Effect.failing : Effect :=
  { effect with
    recoveryPermit := if event.Recovers then event.recovery else effect.recoveryPermit
    failureReason := event.reason }

def Effect.fail : Except Refusal Transition :=
  let next := effect.failing event
  match event.failure with
  | .preDispatch => do
    refuseIf (effect.state ≠ .dispatching ∨ effect.providerRequestId ≠ "" ∨
      effect.partialOutput = true) invalidTransition
    if effect.attempt ≤ effect.maxPreDispatchRetries then
      pure (.to { next with state := .retryPending })
    else
      pure (.to { next with state := .failed, outcome := .failed })
  | .providerRejected => do
    refuseIf ((effect.state ≠ .dispatching ∧ effect.state ≠ .dispatched ∧
        ¬ (effect.state = .uncertain ∧ event.Recovers)) ∨ effect.partialOutput = true)
      invalidTransition
    pure (.to { next with state := .failed, outcome := .failed })
  | .transportUnknown => do
    refuseIf (effect.state ≠ .dispatching ∧ ¬ effect.Observing event) invalidTransition
    pure (.to { next with state := .uncertain, outcome := .uncertain })
  | .afterPartial => do
    refuseIf ((effect.state ≠ .streaming ∧ ¬ (effect.state = .uncertain ∧ event.Recovers)) ∨
      effect.partialOutput = false) invalidTransition
    pure (.to { next with state := .uncertain, outcome := .uncertain })
  -- The check of the event refused these classes.
  | .none | .other _ => pure (.to next)

def Effect.requestCancellation : Except Refusal Transition :=
  match effect.state with
  | .admitted | .retryPending =>
    pure (.to { effect with state := .cancelled, outcome := .cancelled, failureReason := "" })
  | .dispatching | .dispatched | .streaming =>
    pure {
      effect := { effect with state := .cancellationPending }
      dispatch := none
      cancel := some {
        providerId := effect.providerId
        scope := effect.scope
        effectId := effect.scope.effectId
        invocationId := effect.scope.invocationId
        requestDigest := effect.requestDigest
        providerRequestId := effect.providerRequestId
        attempt := effect.attempt } }
  | _ => .error invalidTransition

/-- A resolution keeps the permit that came with it. -/
def Effect.resolving : Effect :=
  { effect with
    cancellationPermit :=
      if event.cancellation ≠ default then event.cancellation else effect.cancellationPermit }

def Effect.resolveCancellation : Except Refusal Transition := do
  refuseIf (effect.state ≠ .cancellationPending) invalidTransition
  refuseIf (event.cancellation ≠ default ∧ (¬ ValidCancellationPermit effect event.cancellation ∨
      event.dispatchPrevented ≠ event.cancellation.dispatchPrevented ∨
      (event.cancellation.dispatchPrevented = true ∧ (effect.providerRequestId ≠ "" ∨ effect.partialOutput = true))))
    invalidRequest
  let next := effect.resolving event
  if event.cancellation ≠ default ∧ event.cancellation.dispatchPrevented = true then
    pure (.to { next with state := .cancelled, outcome := .cancelled })
  else
    pure (.to { next with state := .uncertain, outcome := .uncertain })

def Gateway.move : Except Refusal Transition :=
  match event.kind with
  | .beginDispatch => effect.beginDispatch
  | .providerAccepted => effect.accept event
  | .delta => gateway.stream effect event eventBytes
  | .responseCompleted => effect.complete event
  | .dispatchFailed => effect.fail event
  | .cancelRequested => effect.requestCancellation
  | .cancellationResolved => effect.resolveCancellation event
  | .other _ => pure (.to effect)

/-- The count of an event that moved an effect. -/
def Effect.counted : Effect :=
  { effect with
    revision := effect.revision + 1
    eventCount := effect.eventCount + 1
    eventBytes := effect.eventBytes + eventBytes }

/-- Observations of the provider continue under the permit of a recovery. -/
def EventKind.observes : EventKind → Bool
  | .delta | .responseCompleted | .dispatchFailed => true
  | _ => false

def Gateway.apply : Except Refusal Transition := do
  gateway.validateEffect codec effect
  refuseIf (event.expectedRevision ≠ effect.revision) concurrentTransition
  refuseIf (effect.revision = maxUint64 ∨ gateway.bounds.maxEvents ≤ effect.eventCount) eventLimit
  let (event, eventBytes) ← gateway.checkEvent codec event
  refuseIf (gateway.bounds.maxEventBytes < eventBytes ∨ maxUint64 - effect.eventBytes < eventBytes) eventLimit
  refuseIf (event.Recovers ∧ ¬ ValidResumePermit effect event.recovery) invalidRequest
  refuseIf (effect.recoveryPermit ≠ default ∧ event.kind.observes = true ∧ ¬ event.Recovers) invalidRequest
  let transition ← gateway.move effect event eventBytes
  let next := transition.effect
  refuseIf (next.outcome = .none ∧ gateway.bounds.maxEvents < next.eventCount + 1 +
    minimumTerminalEvents next.durableRequestRetrieval next.state) eventLimit
  pure { transition with effect := next.counted eventBytes }

end Circulusd.ModelGateway
