import Circulusd.Session.TurnChecks

/-
The checks of a session state on its effects.
-/

namespace Circulusd.Session

open Checked Protocol

/-- The claim of an effect repeats its ordinal only together with a parent operation. -/
def claimInput (claim : EffectClaim) : EffectClaim :=
  { claim with ordinal := if claim.parentOperationId = none then none else claim.ordinal }

/-- The permit claims that an effect and its dispatch metadata determine. -/
def permitClaims (claim : EffectClaim) (dispatch : EffectDispatchMetadata) : DispatchPermitClaims :=
  { claimInput claim, dispatch.toSessionFence with
    dispatchAttempt := dispatch.dispatchAttempt
    providerRouteDigest := dispatch.providerRouteDigest
    deadline := dispatch.deadline }

/-- A start claim repeats the dispatch that it starts. -/
@[mk_iff]
structure StartMatches (eventSequence : Nat) (dispatch : EffectDispatchMetadata)
    (start : EffectDispatchStartMetadata) : Prop where
  claimed : start.claimedEventSequence ≤ eventSequence
  dispatchAttempt : start.dispatchAttempt = dispatch.dispatchAttempt
  fence : start.toSessionFence = dispatch.toSessionFence
  deadline : start.deadline = dispatch.deadline
  providerRequestId : start.providerRequestId = dispatch.providerRequestId
  providerRouteDigest : start.providerRouteDigest = dispatch.providerRouteDigest

instance (eventSequence : Nat) (dispatch : EffectDispatchMetadata) (start : EffectDispatchStartMetadata) :
    Decidable (StartMatches eventSequence dispatch start) :=
  decidable_of_iff _ (startMatches_iff eventSequence dispatch start).symm

def assertDispatchStart (eventSequence : Nat) (effectId : String) (dispatch : EffectDispatchMetadata)
    (start : EffectDispatchStartMetadata) : Checked Unit := do
  sessionErrorIf (start.commandDigest = zeroDigest) .failedPrecondition "dispatch start commandDigest must not be zero"
  validatedInteger start.claimedEventSequence ("effect " ++ effectId ++ " start claimedEventSequence") 1
  sessionErrorIf (¬ StartMatches eventSequence dispatch start) .failedPrecondition
    "dispatch start claim does not match its durable dispatch attempt"

def assertLastDispatch (codec : Codec) (eventSequence : Nat) (effect : SessionEffect)
    (dispatch : EffectDispatchMetadata) : Checked Unit := do
  let field := "effect " ++ effect.effectId
  validatedInteger dispatch.dispatchAttempt (field ++ " last dispatch attempt") 1
  validatedInteger dispatch.turnLeaseGeneration (field ++ " last dispatch turn lease generation") 1
  validatedInteger dispatch.placementGeneration (field ++ " last dispatch placement generation") 0
  validatedInteger dispatch.sandboxGeneration (field ++ " last dispatch sandbox generation") 0
  validatedInteger dispatch.authorizationGeneration (field ++ " last dispatch authorization generation") 0
  validatedInteger dispatch.deadline (field ++ " deadline") 1
  parseDispatchPermitClaims codec (permitClaims effect.toEffectClaim dispatch)
  validatedOptionalIdentifier codec dispatch.providerRequestId (field ++ " providerRequestId")
  sessionErrorIf (dispatch.dispatchAttempt ≠ effect.dispatchAttempt) .failedPrecondition
    "last dispatch metadata is not the current attempt"
  whenPresent dispatch.start (assertDispatchStart eventSequence effect.effectId dispatch)

/-- The text of a phase in the messages of its checks. -/
def EffectPhase.text : EffectPhase → String
  | .prepared => "prepared"
  | .dispatched => "dispatched"
  | .externallyCommitted => "externally_committed"
  | .blocked => "blocked"
  | .settled => "settled"

def assertEffectPhase (codec : Codec) (effect : SessionEffect) (field : String) : Checked Unit := do
  sessionErrorIf (effect.phase = .prepared ∧ effect.dispatchAttempt ≠ 0) .failedPrecondition
    "a prepared effect cannot have a dispatch attempt"
  sessionErrorIf ((effect.phase = .dispatched ∨ effect.phase = .externallyCommitted ∨ effect.phase = .blocked) ∧
      effect.dispatchAttempt < 1)
    .failedPrecondition (effect.phase.text ++ " effect lacks a dispatch attempt")
  sessionErrorIf (effect.phase = .blocked ∧ effect.replayPolicy ≠ .confirm) .failedPrecondition
    "only a confirm effect may be blocked"
  sessionErrorIf (effect.resultRef ≠ none ∧ effect.externalCommitId = none) .failedPrecondition
    "result reference lacks an external commit identity"
  validatedOptionalIdentifier codec effect.externalCommitId "effect externalCommitId"
  validatedOptionalIdentifier codec effect.resultRef "effect resultRef"
  sessionErrorIf (effect.phase = .externallyCommitted ∧ effect.externalCommitId = none) .failedPrecondition
    "externally committed effect lacks external commit proof"
  sessionErrorIf ((effect.phase = .prepared ∨ effect.phase = .dispatched ∨ effect.phase = .blocked) ∧
      effect.externalCommitId ≠ none)
    .failedPrecondition (effect.phase.text ++ " effect retained external commit proof")
  sessionErrorIf (¬ (effect.phase = .settled ↔ effect.settlement ≠ none)) .failedPrecondition
    "settlement payload and effect phase disagree"
  whenPresent effect.settlement (fun settlement =>
    assertEffectSettlement codec settlement (field ++ ".settlement") .failedPrecondition)
  whenPresent effect.consumedAtCheckpointSequence (fun sequence => do
    validatedInteger sequence ("effect " ++ effect.effectId ++ " consumed checkpoint sequence") 1
    sessionErrorIf (effect.phase ≠ .settled) .failedPrecondition "only a settled effect can be consumed")
  sessionErrorIf (effect.consumedByAbort = true ∧ effect.phase ≠ .settled) .failedPrecondition
    "abort consumed a non-settled effect"
  sessionErrorIf (effect.consumedAtCheckpointSequence ≠ none ∧ effect.consumedByAbort = true)
    .failedPrecondition "an effect settlement was consumed twice"

def assertEffect (codec : Codec) (state : SessionAggregateState) (prior : List SessionEffect)
    (effect : SessionEffect) : Checked Unit := do
  let field := entryField "state.effects" prior.length
  sessionErrorIf (∃ earlier ∈ prior, earlier.effectId = effect.effectId ∨ earlier.invocationId = effect.invocationId)
    .failedPrecondition "effect or invocation identity was reused"
  parseEffectClaim codec (claimInput effect.toEffectClaim)
  sessionErrorIf (effect.tenantId ≠ state.tenantId ∨ effect.userId ≠ state.userId ∨
      effect.sessionId ≠ state.sessionId ∨ effect.turnId ∉ state.knownTurnIds)
    .failedPrecondition "effect authority identity does not match the session"
  assertStoredPayload codec effect.requestPayload "requestPayload" "requestPayloadRef" field .failedPrecondition
  validatedInteger effect.dispatchAttempt ("effect " ++ effect.effectId ++ " dispatchAttempt") 0
  sessionErrorIf (¬ (effect.dispatchAttempt = 0 ↔ effect.lastDispatch = none)) .failedPrecondition
    "dispatch attempt and durable dispatch metadata disagree"
  whenPresent effect.lastDispatch (assertLastDispatch codec state.eventSequence effect)
  assertEffectPhase codec effect field

/-- An effect stays unconsumed until a step or an abort consumes its settlement. -/
def SessionEffect.unconsumed (effect : SessionEffect) : Bool :=
  effect.consumedAtCheckpointSequence.isNone && !effect.consumedByAbort

def unconsumedEffects (state : SessionAggregateState) : List SessionEffect :=
  state.effects.filter SessionEffect.unconsumed

/-- The active effect of the turn is the only unconsumed one. -/
@[mk_iff]
structure ActiveEffectMatches (state : SessionAggregateState) (turn : ActiveTurn) (effect : SessionEffect) : Prop where
  only : (unconsumedEffects state).map (·.effectId) = [effect.effectId]
  turnId : effect.turnId = turn.turnId

instance (state : SessionAggregateState) (turn : ActiveTurn) (effect : SessionEffect) :
    Decidable (ActiveEffectMatches state turn effect) :=
  decidable_of_iff _ (activeEffectMatches_iff state turn effect).symm

def assertSerialEffect (state : SessionAggregateState) : Checked Unit := do
  sessionErrorIf (1 < (unconsumedEffects state).length) .failedPrecondition "more than one external effect is active"
  match state.activeTurn with
  | none =>
    sessionErrorIf (unconsumedEffects state ≠ []) .failedPrecondition "an effect is active without an active turn"
  | some turn => do
    sessionErrorIf (turn.activeEffectId = none ∧ unconsumedEffects state ≠ []) .failedPrecondition
      "activeEffectId does not name the active effect"
    sessionErrorIf (turn.activeEffectId ≠ none ∧ ¬ ∃ effect ∈ activeEffect state, ActiveEffectMatches state turn effect)
      .failedPrecondition "active effect and active turn disagree"
    sessionErrorIf (turn.status = .needsConfirmation ∧ ¬ ∃ effect ∈ activeEffect state, effect.phase = .blocked)
      .failedPrecondition "needs_confirmation turn lacks a blocked effect"
    sessionErrorIf ((∃ effect ∈ activeEffect state, effect.phase = .blocked) ∧ turn.status ≠ .needsConfirmation)
      .failedPrecondition "blocked effect and turn status disagree"

def assertEffects (codec : Codec) (state : SessionAggregateState) : Checked Unit := do
  forEachPrior (assertEffect codec state) state.effects
  assertSerialEffect state

end Circulusd.Session
